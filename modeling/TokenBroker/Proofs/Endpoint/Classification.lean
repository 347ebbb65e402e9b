import TokenBroker.Proofs.Decimal.WholePart
import TokenBroker.Proofs.Endpoint.TokenResponse
import TokenBroker.Proofs.Json.Reading

/-!
# The classification of answers

An answer is classified by its status, its body and its text (`TokenResponse.Classified`). One with
a status from 200 to 299 gives the response that its members make up (`TokenResponse.Extracts`) if
these are usable (`TokenResponse.Usable`), and is malformed otherwise. Any other one is a refusal in
the words of its body, or else in words that quote its text.
`TokenResponse.ofAnswer_classified_unless_unreadable` says so of all answers, but for those whose
text cannot be read in the charset that they name: these raise the error of the charset, as
`TokenResponse.unmarked_refusal_unquoted` shows.

A lifetime counts if it is a whole number within bounds, and it counts as it is; a number with a
fraction counts without it (`TokenResponse.lifetime_kept_unless_fractional`,
`TokenResponse.fraction_cut_off`).
-/

namespace TokenBroker

/-! ## Whole numbers -/

namespace Json

/-- A value denotes an integer: it is one, or a number with just this value, or a text that is read
as it. -/
inductive Denotes : Json → Int → Prop
  | int (n : Int) : Denotes (.int n) n
  | float {x : Binary64} {n : Int} (exact : x.value? = some (n : ℚ)) : Denotes (.float x) n
  | text {s : String} {n : Int} (read : Numeral.wholeNumber? s = some n) : Denotes (.str s) n

/-- A value is a number with a fraction. -/
inductive Fractional : Json → ℚ → Prop
  | float {x : Binary64} {q : ℚ} (exact : x.value? = some q) (unwhole : ∀ n : Int, q ≠ n) :
      Fractional (.float x) q

/-- What an integer is taken from: a whole number, or a number whose fraction is cut off. -/
def ComesTo (j : Json) (n : Int) : Prop :=
  j.Denotes n ∨ ∃ q, j.Fractional q ∧ Binary64.towardZero q = n

end Json

theorem TokenResponse.seconds?_eq_some_iff {j : Json} {n : Int} :
    seconds? j = some n ↔ j.ComesTo n := by
  constructor
  · intro h
    cases j with
    | int m =>
      cases h
      exact .inl (.int n)
    | float x =>
      have cut : x.value?.map Binary64.towardZero = some n :=
        (Binary64.truncate?_eq_map x).symm.trans h
      obtain ⟨q, exact, rfl⟩ := Option.map_eq_some_iff.1 cut
      by_cases whole : ∃ m : Int, q = m
      · obtain ⟨m, rfl⟩ := whole
        rw [Binary64.towardZero_intCast]
        exact .inl (.float exact)
      · exact .inr ⟨q, .float exact (not_exists.1 whole), rfl⟩
    | str s => exact .inl (.text h)
    | null | bool | arr | obj => cases h
  · rintro ((_ | exact | read) | ⟨q, ⟨exact, -⟩, rfl⟩)
    · rfl
    · simp only [seconds?, Binary64.truncate?_eq_map, exact, Option.map_some,
        Binary64.towardZero_intCast]
    · exact read
    · simp only [seconds?, Binary64.truncate?_eq_map, exact, Option.map_some]

/-! ## Members -/

namespace TokenResponse

variable {ms : List (String × Json)} {requested : List String} {response : TokenResponse}
  {a : HttpAnswer} {token : String} {lifetime : Option Int}

/-- The member that names the lifetime; null counts as none. -/
def givenLifetime (ms : List (String × Json)) : Json := (Json.lookup? "expires_in" ms).getD .null

/-- The members name no token type but the bearer type, in whatever case. -/
def NamesBearer (ms : List (String × Json)) : Prop :=
  ∀ j, Json.lookup? "token_type" ms = some j → ∃ s, j = .str s ∧ s.toLower = "bearer"

/-- Members that make up a token response: a text as the access token, which is not empty, no token
type but the bearer type, and a lifetime within bounds if one is given. -/
structure Usable (ms : List (String × Json)) : Prop where
  accessToken : ∃ token, Json.lookup? "access_token" ms = some (.str token) ∧ token ≠ ""
  bearer : NamesBearer ms
  lifetime : givenLifetime ms = .null ∨ ∃ n, (givenLifetime ms).ComesTo n ∧ IsLifetime n

/-- What a token response takes from the members of an accepted answer. -/
structure Extracts (ms : List (String × Json)) (requested : List String) (r : TokenResponse) :
    Prop where
  accessToken : Json.lookup? "access_token" ms = some (.str r.accessToken)
  tokenType : r.tokenType = "Bearer"
  lifetime : givenLifetime ms = .null ∧ r.expiresIn = none ∨
    ∃ n, (givenLifetime ms).ComesTo n ∧ IsLifetime n ∧ r.expiresIn = some n
  /-- The scopes of a text are its parts between blanks, without the empty ones. -/
  scopes : ∀ s, Json.lookup? "scope" ms = some (.str s) →
    r.scopes = ((s.toList.splitOn ' ').filter (· ≠ [])).map String.ofList
  requestedScopes : (∀ s, Json.lookup? "scope" ms ≠ some (.str s)) → r.scopes = requested
  refreshToken : ∀ token, r.refreshToken = some token ↔
    Json.lookup? "refresh_token" ms = some (.str token)
  additional : r.additional = ms.filter fun m =>
    m.1 ∉ ["access_token", "token_type", "expires_in", "scope", "refresh_token"]

theorem accessTokenOf_eq_ok_iff :
    accessTokenOf ms = .ok token ↔ Json.lookup? "access_token" ms = some (.str token) ∧
    token ≠ "" := by
  unfold accessTokenOf
  split
  · next found =>
    rw [found]
    split
    · next empty => simp [empty]
    · next given =>
      simp only [Except.ok.injEq, Option.some.injEq, Json.str.injEq, ne_eq]
      constructor
      · rintro rfl
        exact ⟨rfl, given⟩
      · exact And.left
  · next other => simpa using fun found => absurd found (other token)

theorem checkTokenType_eq_ok_iff : checkTokenType ms = .ok () ↔ NamesBearer ms := by
  unfold checkTokenType NamesBearer
  split
  · next absent => simp [absent]
  · next j found =>
    have named : isBearer j = true ↔ ∃ s, j = .str s ∧ s.toLower = "bearer" := by
      cases j <;> simp [isBearer]
    simp only [found, Option.some.injEq, forall_eq', ← named]
    split <;> simp [*]

theorem not_comesTo_null {n : Int} : ¬ Json.ComesTo .null n := by
  intro h
  rw [← seconds?_eq_some_iff] at h
  cases h

theorem lifetimeOf_eq_ok_iff :
    lifetimeOf ms = .ok lifetime ↔ givenLifetime ms = .null ∧ lifetime = none ∨
      ∃ n, (givenLifetime ms).ComesTo n ∧ IsLifetime n ∧ lifetime = some n := by
  unfold lifetimeOf
  rw [← givenLifetime.eq_1]
  split
  · next null =>
    simp only [null, not_comesTo_null, true_and, false_and, exists_false, or_false, Except.ok.injEq]
    exact eq_comm
  · next given =>
    have given : givenLifetime ms ≠ .null := given
    simp only [given, false_and, false_or, ← seconds?_eq_some_iff]
    cases seconds? (givenLifetime ms) with
    | none => simp
    | some n =>
      simp only [Option.some.injEq, exists_eq_left']
      split
      · next within =>
        simp only [IsLifetime, within, and_self, true_and, Except.ok.injEq]
        exact eq_comm
      · next outside => simp only [IsLifetime, outside, false_and, reduceCtorEq]

/-! ### Scopes -/

theorem splitScopes_go (part cs : List Char) :
    splitScopes.go part cs = (List.splitOnPPrepend (· == ' ') cs part).map String.ofList := by
  induction cs generalizing part with
  | nil => rfl
  | cons c cs ih =>
    rw [splitScopes.go, List.splitOnPPrepend_cons_eq_if, ih, ih]
    by_cases blank : c = ' ' <;> simp [blank]

theorem splitScopes_eq (s : String) :
    splitScopes s = ((s.toList.splitOn ' ').filter (· ≠ [])).map String.ofList := by
  unfold splitScopes
  rw [splitScopes_go, List.filter_map]
  refine congrArg (List.map String.ofList) (List.filter_congr fun cs _ => ?_)
  simp [String.ofList_eq_empty_iff]

/-! ### Responses -/

theorem scopesOf_of_text {s : String} (given : Json.lookup? "scope" ms = some (.str s)) :
    scopesOf ms requested = splitScopes s := by
  unfold scopesOf
  rw [given]

theorem scopesOf_of_no_text (other : ∀ s, Json.lookup? "scope" ms ≠ some (.str s)) :
    scopesOf ms requested = requested := by
  unfold scopesOf
  split
  · next s given => exact absurd given (other s)
  · rfl

theorem refreshTokenOf_eq_some_iff :
    refreshTokenOf ms = some token ↔ Json.lookup? "refresh_token" ms = some (.str token) := by
  unfold refreshTokenOf
  split
  · next s given => simp [given]
  · next other => simpa using other token

/-- Usable members give a response with just what it takes from them. -/
theorem exists_extracts (usable : Usable ms) (requested : List String) :
    ∃ response, ofMembers ms requested = .ok response ∧ Extracts ms requested response := by
  obtain ⟨⟨token, given, nonempty⟩, bearer, lifetime⟩ := usable
  have within : ∃ l, lifetimeOf ms = .ok l := by
    rcases lifetime with null | ⟨n, comes, within⟩
    · exact ⟨none, lifetimeOf_eq_ok_iff.2 (.inl ⟨null, rfl⟩)⟩
    · exact ⟨some n, lifetimeOf_eq_ok_iff.2 (.inr ⟨n, comes, within, rfl⟩)⟩
  obtain ⟨l, within⟩ := within
  have made : ofMembers ms requested = .ok
      { accessToken := token
        expiresIn := l
        scopes := scopesOf ms requested
        refreshToken := refreshTokenOf ms
        additional := ms.filter fun m => !standardMembers.contains m.1 } := by
    unfold ofMembers
    rw [accessTokenOf_eq_ok_iff.2 ⟨given, nonempty⟩, checkTokenType_eq_ok_iff.2 bearer, within]
    rfl
  refine ⟨_, made, given, rfl, lifetimeOf_eq_ok_iff.1 within, ?_, ?_, ?_, ?_⟩
  · intro s scope
    exact (scopesOf_of_text scope).trans (splitScopes_eq s)
  · exact scopesOf_of_no_text
  · exact fun token => refreshTokenOf_eq_some_iff
  · exact List.filter_congr fun m _ => by simp [standardMembers]

theorem usable_of_ofMembers (h : ofMembers ms requested = .ok response) : Usable ms := by
  unfold ofMembers at h
  cases given : accessTokenOf ms with
  | error f =>
    rw [given] at h
    cases h
  | ok token =>
    cases bearer : checkTokenType ms with
    | error f =>
      rw [given, bearer] at h
      cases h
    | ok _ =>
      cases within : lifetimeOf ms with
      | error f =>
        rw [given, bearer, within] at h
        cases h
      | ok l =>
        refine ⟨⟨token, accessTokenOf_eq_ok_iff.1 given⟩, checkTokenType_eq_ok_iff.1 bearer, ?_⟩
        rcases lifetimeOf_eq_ok_iff.1 within with ⟨null, -⟩ | ⟨n, comes, within, -⟩
        · exact .inl null
        · exact .inr ⟨n, comes, within⟩

end TokenResponse

/-! ## Bodies and texts -/

theorem Json.ofBytes?_of_read {bytes : List UInt8} {text : String} {j : Json}
    (chars : charsOfBytes? bytes = some text) (read : Json.read text = .ok j) :
    ofBytes? bytes = some j := by
  unfold ofBytes?
  rw [chars]
  exact congrArg Except.toOption (readWithin_eq_ok_iff.1 read).2

/-- A body that holds the text of a value is read as the value. -/
theorem Json.ofBytes?_of_render {bytes : List UInt8} {j : Json} (distinct : j.Distinct)
    (writable : j.isWritable = true) (chars : charsOfBytes? bytes = some (j.render .compact)) :
    ofBytes? bytes = some j := by
  have read := read_render .compact distinct writable "" (by simp)
  rw [String.append_empty] at read
  exact ofBytes?_of_read chars read

namespace HttpAnswer

/-- The status is one of success. -/
def Succeeds (a : HttpAnswer) : Prop := 200 ≤ a.status ∧ a.status ≤ 299

/-- The body is an object that names an error. -/
def NamesError (a : HttpAnswer) (ms : List (String × Json)) (code : String) : Prop :=
  Json.ofBytes? a.body = some (.obj ms) ∧ Json.lookup? "error" ms = some (.str code)

theorem isSuccess_eq_true_iff {a : HttpAnswer} : a.isSuccess = true ↔ a.Succeeds := by
  simp [isSuccess, Succeeds]

end HttpAnswer

/-! ## Classes -/

namespace TokenResponse

variable {a : HttpAnswer} {ms : List (String × Json)} {requested : List String}
  {response : TokenResponse}

/-- What an answer gives. The conditions of the five classes exclude each other. -/
inductive Classified (a : HttpAnswer) (requested : List String) : Except Fault TokenResponse → Prop
  | accepted {ms : List (String × Json)} {response : TokenResponse} (succeeds : a.Succeeds)
      (body : Json.ofBytes? a.body = some (.obj ms)) (usable : Usable ms)
      (extracts : Extracts ms requested response) : Classified a requested (.ok response)
  | malformed (succeeds : a.Succeeds)
      (unusable : ∀ ms, Json.ofBytes? a.body = some (.obj ms) → ¬ Usable ms)
      (message : String) : Classified a requested (.error (.failure (.malformed message)))
  | named {ms : List (String × Json)} {code : String} (fails : ¬ a.Succeeds)
      (names : a.NamesError ms code) :
      Classified a requested (.error (.failure (.rejected code
        ((Json.lookup? "error_description" ms).getD .null)
        ((Json.lookup? "error_uri" ms).getD .null) (.int a.status))))
  | quoted {text : String} (fails : ¬ a.Succeeds) (unnamed : ∀ ms code, ¬ a.NamesError ms code)
      (read : a.text = .ok text) :
      Classified a requested (.error (.failure (.rejected "invalid_token_response"
        (.str ("Unexpected token endpoint response: " ++ String.ofList (text.toList.take 200)))
          .null
        (.int a.status))))
  | unreadable {e : Text.CharsetError} (fails : ¬ a.Succeeds)
      (unnamed : ∀ ms code, ¬ a.NamesError ms code)
      (typed : (a.header? "content-type").isSome) (unread : a.text = .error e) :
      Classified a requested (.error (.charset e))

theorem classified_of_succeeds (succeeds : a.Succeeds) (requested : List String) :
    Classified a requested (ofAnswer a requested) := by
  unfold ofAnswer
  simp only [HttpAnswer.isSuccess_eq_true_iff.2 succeeds, if_true]
  split
  · next ms body =>
    by_cases usable : Usable ms
    · obtain ⟨response, made, extracts⟩ := exists_extracts usable requested
      rw [made]
      exact .accepted succeeds body usable extracts
    · rcases ofMembers_cases ms requested with ⟨response, made, -⟩ | ⟨message, made⟩
      · exact absurd (usable_of_ofMembers made) usable
      · rw [made]
        refine .malformed succeeds (fun others same => ?_) message
        cases body.symm.trans same
        exact usable
  · next other => exact .malformed succeeds (fun ms body => absurd body (other ms)) _

end TokenResponse

namespace HttpAnswer

/-- Two letters in UTF-16, of which nothing tells the order of the bytes. -/
def unmarked : HttpAnswer where
  status := 500
  headers := [("Content-Type", "text/plain; charset=utf-16")]
  body := [0x61, 0x00, 0x62, 0x00]

theorem charset_unmarked : Text.ContentType.charset? "text/plain; charset=utf-16" = .ok
    (some (.utf16 none)) := by
  have parameters : Text.ContentType.parameters "text/plain; charset=utf-16" =
      .ok [("text/plain", .plain ""), ("charset", .plain "utf-16")] := by
    decide +kernel
  have known : Text.Charset.ofName? "utf-16" = some (.utf16 none) := by decide +kernel
  have ascii : "utf-16".toList.all (fun c => c.toNat < 0x80) = true := by decide +kernel
  have clean : "utf-16".contains '\x00' = false := by simp
  -- the search for NUL in a name does not evaluate, so the reading is put together from its parts
  simp only [Text.ContentType.charset?, parameters, bind, Except.bind]
  rw [List.find?_cons_of_neg (by decide +kernel), List.find?_cons_of_pos (by decide +kernel)]
  simp only [Text.ContentType.Value.text, ascii, if_true, Text.ContentType.charsetOf?, clean, known]
  rfl

theorem text_unmarked : unmarked.text = .error (.noByteOrder 16) := by
  have header : unmarked.header? "content-type" = some "text/plain; charset=utf-16" := by
    decide +kernel
  have undecoded : (Text.Charset.utf16 none).decode unmarked.body = .error (.noByteOrder 16) := by
    decide +kernel
  unfold text
  rw [if_neg (by decide), header]
  simp only [charset_unmarked]
  exact undecoded

end HttpAnswer

namespace TokenResponse

/-- The lifetime that a value tells is within bounds exactly if the value is, but for a fraction of
a second. -/
theorem exists_lifetime_iff {j : Json} :
    (∃ n, j.ComesTo n ∧ IsLifetime n) ↔
      (∃ n, j.Denotes n ∧ 0 ≤ n ∧ n ≤ maxLifetime) ∨ ∃ q, j.Fractional q ∧ -1 < q ∧
      q < maxLifetime + 1 := by
  have bounds (q : ℚ) : IsLifetime (Binary64.towardZero q) ↔ -1 < q ∧ q < maxLifetime + 1 :=
    Binary64.towardZero_mem_iff (by decide)
  constructor
  · rintro ⟨n, whole | ⟨q, fractional, rfl⟩, within⟩
    · exact .inl ⟨n, whole, within⟩
    · exact .inr ⟨q, fractional, (bounds q).1 within⟩
  · rintro (⟨n, whole, within⟩ | ⟨q, fractional, within⟩)
    · exact ⟨n, .inl whole, within⟩
    · exact ⟨_, .inr ⟨q, fractional, rfl⟩, (bounds q).2 within⟩

/-- An integer is taken from a value in one way. -/
theorem comesTo_unique {j : Json} {m n : Int} (one : j.ComesTo m) (other : j.ComesTo n) :
    m = n := by
  rw [← seconds?_eq_some_iff] at one other
  exact Option.some.inj (one.symm.trans other)

/-- The lifetime of an accepted answer is its whole number, or none if it is null, or its number
with a fraction without it. An answer whose lifetime is nothing of these is malformed. -/
theorem lifetime_kept_unless_fractional {token : String} (succeeds : a.Succeeds)
    (body : Json.ofBytes? a.body = some (.obj ms))
    (given : Json.lookup? "access_token" ms = some (.str token)) (nonempty : token ≠ "")
    (bearer : NamesBearer ms) (requested : List String) :
    ((∃ r, ofAnswer a requested = .ok r) ↔
      givenLifetime ms = .null ∨
        (∃ n, (givenLifetime ms).Denotes n ∧ 0 ≤ n ∧ n ≤ maxLifetime) ∨
        ∃ q, (givenLifetime ms).Fractional q ∧ -1 < q ∧ q < maxLifetime + 1) ∧
      (∀ r, ofAnswer a requested = .ok r →
        (givenLifetime ms = .null → r.expiresIn = none) ∧
        (∀ n, (givenLifetime ms).Denotes n → r.expiresIn = some n) ∧
        ∀ q, (givenLifetime ms).Fractional q → r.expiresIn = some (Binary64.towardZero q)) ∧
      ∀ fault, ofAnswer a requested = .error fault →
        ∃ message, fault = .failure (.malformed message) := by
  have usable : Usable ms ↔ givenLifetime ms = .null ∨ ∃ n, (givenLifetime ms).ComesTo n ∧
      IsLifetime n :=
    ⟨Usable.lifetime, fun lifetime => ⟨⟨token, given, nonempty⟩, bearer, lifetime⟩⟩
  rw [← exists_lifetime_iff, ← usable]
  have classified := classified_of_succeeds succeeds requested
  refine ⟨⟨?_, ?_⟩, ?_, ?_⟩
  · rintro ⟨r, made⟩
    rw [made] at classified
    cases classified with
    | accepted _ same usable =>
      cases body.symm.trans same
      exact usable
  · intro usable
    cases made : ofAnswer a requested with
    | ok r => exact ⟨r, rfl⟩
    | error fault =>
      rw [made] at classified
      cases classified with
      | malformed _ unusable => exact absurd usable (unusable ms body)
      | named fails | quoted fails | unreadable fails => exact absurd succeeds fails
  · intro r made
    rw [made] at classified
    cases classified with
    | accepted _ same _ extracts =>
      cases body.symm.trans same
      -- what a value comes to is unique, so the lifetime taken is the one meant
      have told {n : Int} (comes : (givenLifetime ms).ComesTo n) : r.expiresIn = some n := by
        rcases extracts.lifetime with ⟨null, -⟩ | ⟨m, other, -, told⟩
        · rw [null] at comes
          exact absurd comes not_comesTo_null
        · rw [told, comesTo_unique comes other]
      refine ⟨fun null => ?_, fun n whole => told (.inl whole), fun q part =>
        told (.inr ⟨q, part, rfl⟩)⟩
      rcases extracts.lifetime with ⟨-, none⟩ | ⟨n, comes, -⟩
      · exact none
      · rw [null] at comes
        exact absurd comes not_comesTo_null
  · intro fault made
    rw [made] at classified
    cases classified with
    | malformed _ _ message => exact ⟨message, rfl⟩
    | named fails | quoted fails | unreadable fails => exact absurd succeeds fails

end TokenResponse

namespace Timed

/-- The members of a token response with a lifetime. -/
def members (lifetime : Json) : List (String × Json) :=
  [("access_token", .str "tok"), ("expires_in", lifetime)]

def answer (lifetime : Json) : HttpAnswer where
  body := Utf8.encode ((Json.obj (members lifetime)).render .compact)

/-- The number nearest to 3600.9. -/
def fraction : Binary64 := .finite false 7918462840917197 (-41) (by decide)

theorem body_answer {lifetime : Json} (distinct : lifetime.Distinct)
    (writable : lifetime.isWritable = true)
    (chars : Json.charsOfBytes? (answer lifetime).body = some
    ((Json.obj (members lifetime)).render .compact)) :
    Json.ofBytes? (answer lifetime).body = some (.obj (members lifetime)) :=
  Json.ofBytes?_of_render ⟨by simp [members], trivial, distinct, trivial⟩
    (by simp [members, Json.isWritable, Json.membersWritable, writable]) chars

end Timed

namespace TokenResponse

open Timed in
/-- A text counts as the whole number that it is read as. -/
theorem written_lifetime_kept :
    ∃ r, ofAnswer (answer (.str " 86_400 ")) [] = .ok r ∧ r.expiresIn = some 86400 := by
  have whole : (givenLifetime (members (.str " 86_400 "))).Denotes 86400 :=
    .text (by decide +kernel)
  obtain ⟨accepted, kept, -⟩ := lifetime_kept_unless_fractional (a := answer (.str " 86_400 "))
    ⟨by decide, by decide⟩ (body_answer trivial rfl (by decide +kernel)) rfl (by decide) nofun []
  obtain ⟨r, made⟩ := accepted.2 (.inr (.inl ⟨86400, whole, by decide, by decide⟩))
  exact ⟨r, made, (kept r made).2.1 _ whole⟩

open Timed in
/-- A lifetime of 3600.9 seconds is no whole number, and counts as 3600. -/
theorem fraction_cut_off :
    Json.ofBytes? (answer (.float fraction)).body = some (.obj (members (.float fraction))) ∧
      (∀ n, ¬ (givenLifetime (members (.float fraction))).Denotes n) ∧
      (ofAnswer (answer (.float fraction)) []).toOption.map (·.expiresIn) = some (some 3600) := by
  refine ⟨body_answer trivial rfl (by decide +kernel), fun n whole => ?_, by decide +kernel⟩
  cases whole with
  | float exact =>
    have value : (7918462840917197 : ℚ) * 2 ^ (-41 : ℤ) = n := by
      simpa [fraction, Binary64.value?] using exact
    have product : (7918462840917197 : ℤ) = n * 2 ^ 41 := by
      have : (7918462840917197 : ℚ) = n * 2 ^ 41 := by
        rw [← value]
        norm_num
      exact_mod_cast this
    omega

end TokenResponse

end TokenBroker
