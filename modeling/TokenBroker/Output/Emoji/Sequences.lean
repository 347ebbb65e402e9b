/-!
# Emoji of several characters

Keycaps, groups and professions that are put together, flags of countries and regions, each of which
is two indicator letters, and the emoji that take a skin tone behind their first character. The name
of one with a tone ends in the name of the tone.
-/

namespace TokenBroker

namespace Emoji

/-- The joined emoji, by their names. -/
def joined : String :=
  "#\u20e3:keycap_number_sign #\ufe0f\u20e3:keycap_# *\u20e3:keycap_asterisk " ++
    "*\ufe0f\u20e3:keycap_* 0\u20e3:keycap_digit_zero 0\ufe0f\u20e3:keycap_0,zero " ++
    "1\u20e3:keycap_digit_one 1\ufe0f\u20e3:keycap_1,one 2\u20e3:keycap_digit_two " ++
    "2\ufe0f\u20e3:keycap_2,two 3\u20e3:keycap_digit_three 3\ufe0f\u20e3:keycap_3,three " ++
    "4\u20e3:keycap_digit_four 4\ufe0f\u20e3:four,keycap_4 5\u20e3:keycap_digit_five " ++
    "5\ufe0f\u20e3:five,keycap_5 6\u20e3:keycap_digit_six 6\ufe0f\u20e3:keycap_6,six " ++
    "7\u20e3:keycap_digit_seven 7\ufe0f\u20e3:keycap_7,seven 8\u20e3:keycap_digit_eight " ++
    "8\ufe0f\u20e3:eight,keycap_8 9\u20e3:keycap_digit_nine 9\ufe0f\u20e3:keycap_9,nine " ++
    "🏳\ufe0f\u200d🌈:rainbow_flag 🏴\u200d☠\ufe0f:pirate_flag 🐕\u200d🦺:service_dog " ++
    "👁\ufe0f\u200d🗨\ufe0f:eye_in_speech_bubble 👨\u200d❤\ufe0f\u200d👨:couple_with_heart_man_man " ++
    "👨\u200d❤\ufe0f\u200d💋\u200d👨:kiss_man_man 👨\u200d👦:family_man_boy " ++
    "👨\u200d👦\u200d👦:family_man_boy_boy 👨\u200d👧:family_man_girl " ++
    "👨\u200d👧\u200d👦:family_man_girl_boy 👨\u200d👧\u200d👧:family_man_girl_girl " ++
    "👨\u200d👨\u200d👦:family_man_man_boy 👨\u200d👨\u200d👦\u200d👦:family_man_man_boy_boy " ++
    "👨\u200d👨\u200d👧:family_man_man_girl 👨\u200d👨\u200d👧\u200d👦:family_man_man_girl_boy " ++
    "👨\u200d👨\u200d👧\u200d👧:family_man_man_girl_girl 👨\u200d👩\u200d👦:family_man_woman_boy " ++
    "👨\u200d👩\u200d👦\u200d👦:family_man_woman_boy_boy 👨\u200d👩\u200d👧:family_man_woman_girl " ++
    "👨\u200d👩\u200d👧\u200d👦:family_man_woman_girl_boy " ++
    "👨\u200d👩\u200d👧\u200d👧:family_man_woman_girl_girl 👨\u200d🦯:man_with_probing_cane " ++
    "👨\u200d🦰:red-haired_man 👨\u200d🦱:curly-haired_man 👨\u200d🦲:bald_man " ++
    "👨\u200d🦳:white-haired_man 👨\u200d🦼:man_in_motorized_wheelchair " ++
    "👨\u200d🦽:man_in_manual_wheelchair 👩\u200d❤\ufe0f\u200d👨:couple_with_heart_woman_man " ++
    "👩\u200d❤\ufe0f\u200d👩:couple_with_heart_woman_woman " ++
    "👩\u200d❤\ufe0f\u200d💋\u200d👨:kiss_woman_man 👩\u200d❤\ufe0f\u200d💋\u200d👩:kiss_woman_woman " ++
    "👩\u200d👦:family_woman_boy 👩\u200d👦\u200d👦:family_woman_boy_boy 👩\u200d👧:family_woman_girl " ++
    "👩\u200d👧\u200d👦:family_woman_girl_boy 👩\u200d👧\u200d👧:family_woman_girl_girl " ++
    "👩\u200d👩\u200d👦:family_woman_woman_boy 👩\u200d👩\u200d👦\u200d👦:family_woman_woman_boy_boy " ++
    "👩\u200d👩\u200d👧:family_woman_woman_girl 👩\u200d👩\u200d👧\u200d👦:family_woman_woman_girl_boy " ++
    "👩\u200d👩\u200d👧\u200d👧:family_woman_woman_girl_girl 👩\u200d🦯:woman_with_probing_cane " ++
    "👩\u200d🦰:red-haired_woman 👩\u200d🦱:curly-haired_woman 👩\u200d🦲:bald_woman " ++
    "👩\u200d🦳:white-haired_woman 👩\u200d🦼:woman_in_motorized_wheelchair " ++
    "👩\u200d🦽:woman_in_manual_wheelchair 👯\u200d♀\ufe0f:women_with_bunny_ears " ++
    "👯\u200d♂\ufe0f:men_with_bunny_ears 🤼\u200d♀\ufe0f:women_wrestling " ++
    "🤼\u200d♂\ufe0f:men_wrestling 🧑\u200d🤝\u200d🧑:people_holding_hands " ++
    "🧞\u200d♀\ufe0f:woman_genie 🧞\u200d♂\ufe0f:man_genie 🧟\u200d♀\ufe0f:woman_zombie " ++
    "🧟\u200d♂\ufe0f:man_zombie"

/-- The flags that have a longer name besides, by their shorter one. -/
def flags : String :=
  "🇦🇨:ascension_island 🇦🇩:andorra 🇦🇪:united_arab_emirates 🇦🇫:afghanistan 🇦🇬:antigua_&_barbuda " ++
    "🇦🇮:anguilla 🇦🇱:albania 🇦🇲:armenia 🇦🇴:angola 🇦🇶:antarctica 🇦🇷:argentina 🇦🇸:american_samoa " ++
    "🇦🇹:austria 🇦🇺:australia 🇦🇼:aruba 🇦🇽:åland_islands 🇦🇿:azerbaijan 🇧🇦:bosnia_&_herzegovina " ++
    "🇧🇧:barbados 🇧🇩:bangladesh 🇧🇪:belgium 🇧🇫:burkina_faso 🇧🇬:bulgaria 🇧🇭:bahrain 🇧🇮:burundi " ++
    "🇧🇯:benin 🇧🇱:st._barthélemy 🇧🇲:bermuda 🇧🇳:brunei 🇧🇴:bolivia 🇧🇶:caribbean_netherlands " ++
    "🇧🇷:brazil 🇧🇸:bahamas 🇧🇹:bhutan 🇧🇻:bouvet_island 🇧🇼:botswana 🇧🇾:belarus 🇧🇿:belize 🇨🇦:canada " ++
    "🇨🇫:central_african_republic 🇨🇭:switzerland 🇨🇮:côte_d’ivoire 🇨🇰:cook_islands 🇨🇱:chile " ++
    "🇨🇲:cameroon 🇨🇳:china 🇨🇴:colombia 🇨🇵:clipperton_island 🇨🇷:costa_rica 🇨🇺:cuba 🇨🇻:cape_verde " ++
    "🇨🇼:curaçao 🇨🇽:christmas_island 🇨🇾:cyprus 🇩🇪:germany 🇩🇬:diego_garcia 🇩🇯:djibouti 🇩🇰:denmark " ++
    "🇩🇲:dominica 🇩🇴:dominican_republic 🇩🇿:algeria 🇪🇦:ceuta_&_melilla 🇪🇨:ecuador 🇪🇪:estonia " ++
    "🇪🇬:egypt 🇪🇭:western_sahara 🇪🇷:eritrea 🇪🇸:spain 🇪🇹:ethiopia 🇪🇺:european_union 🇫🇮:finland " ++
    "🇫🇯:fiji 🇫🇰:falkland_islands 🇫🇲:micronesia 🇫🇴:faroe_islands 🇫🇷:france 🇬🇦:gabon " ++
    "🇬🇧:united_kingdom 🇬🇩:grenada 🇬🇪:georgia 🇬🇫:french_guiana 🇬🇬:guernsey 🇬🇭:ghana 🇬🇮:gibraltar " ++
    "🇬🇱:greenland 🇬🇲:gambia 🇬🇳:guinea 🇬🇵:guadeloupe 🇬🇶:equatorial_guinea 🇬🇷:greece " ++
    "🇬🇸:south_georgia_&_south_sandwich_islands 🇬🇹:guatemala 🇬🇺:guam 🇬🇾:guyana " ++
    "🇭🇲:heard_&_mcdonald_islands 🇭🇳:honduras 🇭🇷:croatia 🇭🇹:haiti 🇭🇺:hungary 🇮🇨:canary_islands " ++
    "🇮🇩:indonesia 🇮🇪:ireland 🇮🇱:israel 🇮🇲:isle_of_man 🇮🇳:india " ++
    "🇮🇴:british_indian_ocean_territory 🇮🇶:iraq 🇮🇷:iran 🇮🇸:iceland 🇮🇹:italy 🇯🇪:jersey 🇯🇲:jamaica " ++
    "🇯🇴:jordan 🇰🇪:kenya 🇰🇬:kyrgyzstan 🇰🇭:cambodia 🇰🇮:kiribati 🇰🇲:comoros 🇰🇳:st._kitts_&_nevis " ++
    "🇰🇵:north_korea 🇰🇷:south_korea 🇰🇼:kuwait 🇰🇾:cayman_islands 🇰🇿:kazakhstan 🇱🇦:laos 🇱🇧:lebanon " ++
    "🇱🇨:st._lucia 🇱🇮:liechtenstein 🇱🇰:sri_lanka 🇱🇷:liberia 🇱🇸:lesotho 🇱🇹:lithuania " ++
    "🇱🇺:luxembourg 🇱🇻:latvia 🇱🇾:libya 🇲🇦:morocco 🇲🇨:monaco 🇲🇩:moldova 🇲🇪:montenegro " ++
    "🇲🇫:st._martin 🇲🇬:madagascar 🇲🇭:marshall_islands 🇲🇰:macedonia 🇲🇱:mali 🇲🇳:mongolia " ++
    "🇲🇵:northern_mariana_islands 🇲🇶:martinique 🇲🇷:mauritania 🇲🇸:montserrat 🇲🇹:malta " ++
    "🇲🇺:mauritius 🇲🇻:maldives 🇲🇼:malawi 🇲🇽:mexico 🇲🇾:malaysia 🇲🇿:mozambique 🇳🇦:namibia " ++
    "🇳🇨:new_caledonia 🇳🇪:niger 🇳🇫:norfolk_island 🇳🇬:nigeria 🇳🇮:nicaragua 🇳🇱:netherlands " ++
    "🇳🇴:norway 🇳🇵:nepal 🇳🇷:nauru 🇳🇺:niue 🇳🇿:new_zealand 🇴🇲:oman 🇵🇦:panama 🇵🇪:peru " ++
    "🇵🇫:french_polynesia 🇵🇬:papua_new_guinea 🇵🇭:philippines 🇵🇰:pakistan 🇵🇱:poland " ++
    "🇵🇲:st._pierre_&_miquelon 🇵🇳:pitcairn_islands 🇵🇷:puerto_rico 🇵🇸:palestinian_territories " ++
    "🇵🇹:portugal 🇵🇼:palau 🇵🇾:paraguay 🇶🇦:qatar 🇷🇪:réunion 🇷🇴:romania 🇷🇸:serbia 🇷🇺:russia " ++
    "🇷🇼:rwanda 🇸🇦:saudi_arabia 🇸🇧:solomon_islands 🇸🇨:seychelles 🇸🇩:sudan 🇸🇪:sweden 🇸🇬:singapore " ++
    "🇸🇭:st._helena 🇸🇮:slovenia 🇸🇯:svalbard_&_jan_mayen 🇸🇰:slovakia 🇸🇱:sierra_leone " ++
    "🇸🇲:san_marino 🇸🇳:senegal 🇸🇴:somalia 🇸🇷:suriname 🇸🇸:south_sudan 🇸🇹:são_tomé_&_príncipe " ++
    "🇸🇻:el_salvador 🇸🇽:sint_maarten 🇸🇾:syria 🇸🇿:swaziland 🇹🇦:tristan_da_cunha " ++
    "🇹🇨:turks_&_caicos_islands 🇹🇩:chad 🇹🇫:french_southern_territories 🇹🇬:togo 🇹🇭:thailand " ++
    "🇹🇯:tajikistan 🇹🇰:tokelau 🇹🇲:turkmenistan 🇹🇳:tunisia 🇹🇴:tonga 🇹🇹:trinidad_&_tobago " ++
    "🇹🇻:tuvalu 🇹🇼:taiwan 🇹🇿:tanzania 🇺🇦:ukraine 🇺🇬:uganda 🇺🇲:u.s._outlying_islands " ++
    "🇺🇸:united_states 🇺🇾:uruguay 🇺🇿:uzbekistan 🇻🇦:vatican_city 🇻🇨:st._vincent_&_grenadines " ++
    "🇻🇪:venezuela 🇻🇬:british_virgin_islands 🇻🇮:u.s._virgin_islands 🇻🇳:vietnam 🇻🇺:vanuatu " ++
    "🇼🇫:wallis_&_futuna 🇼🇸:samoa 🇽🇰:kosovo 🇾🇪:yemen 🇾🇹:mayotte 🇿🇦:south_africa 🇿🇲:zambia " ++
    "🇿🇼:zimbabwe"

/-- The other flags, by their names. -/
def plainFlags : String :=
  "🇨🇨:cocos_(keeling)_islands,flag_for_cocos__islands " ++
    "🇨🇩:congo_-_kinshasa,flag_for_congo____kinshasa " ++
    "🇨🇬:congo_-_brazzaville,flag_for_congo____brazzaville 🇨🇿:czechia,flag_for_czech_republic " ++
    "🇬🇼:flag_for_guinea__bissau,guinea-bissau 🇭🇰:flag_for_hong_kong,hong_kong_sar_china " ++
    "🇯🇵:flag_for_japan 🇲🇲:flag_for_myanmar,myanmar_(burma) 🇲🇴:flag_for_macau,macau_sar_china " ++
    "🇹🇱:flag_for_timor__leste,timor-leste 🇹🇷:flag_for_turkey 🇺🇳:united_nations"

/-- The emoji that take a tone, by their names. -/
def toned : String :=
  "☝:index_pointing_up ⛹:person_bouncing_ball ⛹\ufe0f\u200d♀\ufe0f:woman_bouncing_ball " ++
    "⛹\ufe0f\u200d♂\ufe0f:man_bouncing_ball ✊:raised_fist ✋:raised_hand ✌:victory_hand " ++
    "✍:writing_hand 🎅:santa_claus 🏂:snowboarder 🏃:person_running 🏃\u200d♀\ufe0f:woman_running " ++
    "🏃\u200d♂\ufe0f:man_running 🏄:person_surfing 🏄\u200d♀\ufe0f:woman_surfing " ++
    "🏄\u200d♂\ufe0f:man_surfing 🏇:horse_racing 🏊:person_swimming 🏊\u200d♀\ufe0f:woman_swimming " ++
    "🏊\u200d♂\ufe0f:man_swimming 🏋:person_lifting_weights " ++
    "🏋\ufe0f\u200d♀\ufe0f:woman_lifting_weights 🏋\ufe0f\u200d♂\ufe0f:man_lifting_weights " ++
    "🏌:person_golfing 🏌\ufe0f\u200d♀\ufe0f:woman_golfing 🏌\ufe0f\u200d♂\ufe0f:man_golfing 👂:ear " ++
    "👃:nose 👆:backhand_index_pointing_up 👇:backhand_index_pointing_down " ++
    "👈:backhand_index_pointing_left 👉:backhand_index_pointing_right 👊:oncoming_fist " ++
    "👋:waving_hand 👌:ok_hand 👍:thumbs_up 👎:thumbs_down 👏:clapping_hands 👐:open_hands 👦:boy " ++
    "👧:girl 👨:man 👨\u200d⚕\ufe0f:man_health_worker 👨\u200d⚖\ufe0f:man_judge " ++
    "👨\u200d✈\ufe0f:man_pilot 👨\u200d🌾:man_farmer 👨\u200d🍳:man_cook 👨\u200d🎓:man_student " ++
    "👨\u200d🎤:man_singer 👨\u200d🎨:man_artist 👨\u200d🏫:man_teacher 👨\u200d🏭:man_factory_worker " ++
    "👨\u200d💻:man_technologist 👨\u200d💼:man_office_worker 👨\u200d🔧:man_mechanic " ++
    "👨\u200d🔬:man_scientist 👨\u200d🚀:man_astronaut 👨\u200d🚒:man_firefighter 👩:woman " ++
    "👩\u200d⚕\ufe0f:woman_health_worker 👩\u200d⚖\ufe0f:woman_judge 👩\u200d✈\ufe0f:woman_pilot " ++
    "👩\u200d🌾:woman_farmer 👩\u200d🍳:woman_cook 👩\u200d🎓:woman_student 👩\u200d🎤:woman_singer " ++
    "👩\u200d🎨:woman_artist 👩\u200d🏫:woman_teacher 👩\u200d🏭:woman_factory_worker " ++
    "👩\u200d💻:woman_technologist 👩\u200d💼:woman_office_worker 👩\u200d🔧:woman_mechanic " ++
    "👩\u200d🔬:woman_scientist 👩\u200d🚀:woman_astronaut 👩\u200d🚒:woman_firefighter " ++
    "👮:police_officer 👮\u200d♀\ufe0f:woman_police_officer 👮\u200d♂\ufe0f:man_police_officer " ++
    "👰:bride_with_veil 👱:blond-haired_person 👱\u200d♀\ufe0f:blond-haired_woman " ++
    "👱\u200d♂\ufe0f:blond-haired_man 👲:man_with_chinese_cap 👳:person_wearing_turban " ++
    "👳\u200d♀\ufe0f:woman_wearing_turban 👳\u200d♂\ufe0f:man_wearing_turban 👴:old_man " ++
    "👵:old_woman 👶:baby 👷:construction_worker 👷\u200d♀\ufe0f:woman_construction_worker " ++
    "👷\u200d♂\ufe0f:man_construction_worker 👸:princess 👼:baby_angel 💁:person_tipping_hand " ++
    "💁\u200d♀\ufe0f:woman_tipping_hand 💁\u200d♂\ufe0f:man_tipping_hand 💂:guard " ++
    "💂\u200d♀\ufe0f:woman_guard 💂\u200d♂\ufe0f:man_guard 💃:woman_dancing 💅:nail_polish " ++
    "💆:person_getting_massage 💆\u200d♀\ufe0f:woman_getting_massage " ++
    "💆\u200d♂\ufe0f:man_getting_massage 💇:person_getting_haircut " ++
    "💇\u200d♀\ufe0f:woman_getting_haircut 💇\u200d♂\ufe0f:man_getting_haircut 💪:flexed_biceps " ++
    "🕴:man_in_suit_levitating 🕵:detective 🕵\ufe0f\u200d♀\ufe0f:woman_detective " ++
    "🕵\ufe0f\u200d♂\ufe0f:man_detective 🕺:man_dancing 🖐:hand_with_fingers_splayed " ++
    "🖕:middle_finger 🖖:vulcan_salute 🙅:person_gesturing_no 🙅\u200d♀\ufe0f:woman_gesturing_no " ++
    "🙅\u200d♂\ufe0f:man_gesturing_no 🙆:person_gesturing_ok 🙆\u200d♀\ufe0f:woman_gesturing_ok " ++
    "🙆\u200d♂\ufe0f:man_gesturing_ok 🙇:person_bowing 🙇\u200d♀\ufe0f:woman_bowing " ++
    "🙇\u200d♂\ufe0f:man_bowing 🙋:person_raising_hand 🙋\u200d♀\ufe0f:woman_raising_hand " ++
    "🙋\u200d♂\ufe0f:man_raising_hand 🙌:raising_hands 🙍:person_frowning " ++
    "🙍\u200d♀\ufe0f:woman_frowning 🙍\u200d♂\ufe0f:man_frowning 🙎:person_pouting " ++
    "🙎\u200d♀\ufe0f:woman_pouting 🙎\u200d♂\ufe0f:man_pouting 🙏:folded_hands " ++
    "🚣:person_rowing_boat 🚣\u200d♀\ufe0f:woman_rowing_boat 🚣\u200d♂\ufe0f:man_rowing_boat " ++
    "🚴:person_biking 🚴\u200d♀\ufe0f:woman_biking 🚴\u200d♂\ufe0f:man_biking " ++
    "🚵:person_mountain_biking 🚵\u200d♀\ufe0f:woman_mountain_biking " ++
    "🚵\u200d♂\ufe0f:man_mountain_biking 🚶:person_walking 🚶\u200d♀\ufe0f:woman_walking " ++
    "🚶\u200d♂\ufe0f:man_walking 🛀:person_taking_bath 🛌:person_in_bed 🤘:sign_of_the_horns " ++
    "🤙:call_me_hand 🤚:raised_back_of_hand 🤛:left-facing_fist 🤜:right-facing_fist " ++
    "🤞:crossed_fingers 🤟:love-you_gesture 🤦:person_facepalming 🤦\u200d♀\ufe0f:woman_facepalming " ++
    "🤦\u200d♂\ufe0f:man_facepalming 🤰:pregnant_woman 🤱:breast-feeding 🤲:palms_up_together " ++
    "🤳:selfie 🤴:prince 🤵:man_in_tuxedo 🤶:mrs._claus 🤷:person_shrugging " ++
    "🤷\u200d♀\ufe0f:woman_shrugging 🤷\u200d♂\ufe0f:man_shrugging 🤸:person_cartwheeling " ++
    "🤸\u200d♀\ufe0f:woman_cartwheeling 🤸\u200d♂\ufe0f:man_cartwheeling 🤹:person_juggling " ++
    "🤹\u200d♀\ufe0f:woman_juggling 🤹\u200d♂\ufe0f:man_juggling 🤽:person_playing_water_polo " ++
    "🤽\u200d♀\ufe0f:woman_playing_water_polo 🤽\u200d♂\ufe0f:man_playing_water_polo " ++
    "🤾:person_playing_handball 🤾\u200d♀\ufe0f:woman_playing_handball " ++
    "🤾\u200d♂\ufe0f:man_playing_handball 🧑:adult 🧒:child 🧓:older_adult 🧔:bearded_person " ++
    "🧕:woman_with_headscarf 🧖:person_in_steamy_room 🧖\u200d♀\ufe0f:woman_in_steamy_room " ++
    "🧖\u200d♂\ufe0f:man_in_steamy_room 🧗:person_climbing 🧗\u200d♀\ufe0f:woman_climbing " ++
    "🧗\u200d♂\ufe0f:man_climbing 🧘:person_in_lotus_position " ++
    "🧘\u200d♀\ufe0f:woman_in_lotus_position 🧘\u200d♂\ufe0f:man_in_lotus_position 🧙:mage " ++
    "🧙\u200d♀\ufe0f:woman_mage 🧙\u200d♂\ufe0f:man_mage 🧚:fairy 🧚\u200d♀\ufe0f:woman_fairy " ++
    "🧚\u200d♂\ufe0f:man_fairy 🧛:vampire 🧛\u200d♀\ufe0f:woman_vampire 🧛\u200d♂\ufe0f:man_vampire " ++
    "🧜:merperson 🧜\u200d♀\ufe0f:mermaid 🧜\u200d♂\ufe0f:merman 🧝:elf 🧝\u200d♀\ufe0f:woman_elf " ++
    "🧝\u200d♂\ufe0f:man_elf"

end Emoji

end TokenBroker
