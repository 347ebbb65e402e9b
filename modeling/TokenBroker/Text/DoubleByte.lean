import TokenBroker.Text.DoubleByte.Chinese
import TokenBroker.Text.DoubleByte.Iso2022
import TokenBroker.Text.DoubleByte.Japanese
import TokenBroker.Text.DoubleByte.Korean

/-!
# Charsets with characters of several bytes

The East Asian charsets by name, and how each is read.
-/

namespace TokenBroker

namespace Text

/-- The charsets of which a character takes more than one byte. -/
inductive DoubleByteSet
  | gb2312
  | gbk
  | gb18030
  | hz
  | big5
  | windowsBig5
  | hongKong
  | eucKorean
  | windowsKorean
  | johab
  | iso2022Korean
  | shiftJis
  | windowsJapanese
  /-- Shift JIS with an edition of JIS X 0213. -/
  | shiftJis0213 (e : Japanese.Edition)
  | eucJapanese
  /-- EUC with an edition of JIS X 0213. -/
  | euc0213 (e : Japanese.Edition)
  | iso2022Japanese
  | iso2022Japanese1
  | iso2022Japanese2
  /-- ISO 2022 with an edition of JIS X 0213. -/
  | iso2022Japanese0213 (e : Japanese.Edition)
  | iso2022JapaneseExtended
  deriving DecidableEq, Repr

namespace DoubleByteSet

/-- The labels of the charsets. -/
def labels : List (DoubleByteSet × List String) :=
  [
    (gb2312, ["chinese", "csiso58gb231280", "euc_cn", "euccn", "eucgb2312_cn", "gb2312",
      "gb2312_1980", "gb2312_80", "iso_ir_58", "x_mac_simp_chinese"]),
    (gbk, ["936", "cp936", "gbk", "ms936"]),
    (gb18030, ["gb18030", "gb18030_2000"]),
    (hz, ["hz", "hz_gb", "hz_gb_2312", "hzgb"]),
    (big5, ["big5", "big5_tw", "csbig5", "x_mac_trad_chinese"]),
    (windowsBig5, ["950", "cp950", "ms950"]),
    (hongKong, ["big5_hkscs", "big5hkscs", "hkscs"]),
    (eucKorean, ["euc_kr", "euckr", "korean", "ks_c_5601", "ks_c_5601_1987", "ks_x_1001", "ksc5601",
      "ksx1001", "x_mac_korean"]),
    (windowsKorean, ["949", "cp949", "ms949", "uhc"]),
    (johab, ["cp1361", "johab", "ms1361"]),
    (iso2022Korean, ["csiso2022kr", "iso2022_kr", "iso2022kr", "iso_2022_kr"]),
    (shiftJis, ["csshiftjis", "s_jis", "shift_jis", "shiftjis", "sjis", "x_mac_japanese"]),
    (windowsJapanese, ["932", "cp932", "ms932", "ms_kanji", "mskanji"]),
    (shiftJis0213 .first, ["s_jisx0213", "shift_jisx0213", "shiftjisx0213", "sjisx0213"]),
    (shiftJis0213 .second, ["s_jis_2004", "shift_jis_2004", "shiftjis2004", "sjis_2004"]),
    (eucJapanese, ["euc_jp", "eucjp", "u_jis", "ujis"]),
    (euc0213 .first, ["euc_jisx0213", "eucjisx0213"]),
    (euc0213 .second, ["euc_jis2004", "euc_jis_2004", "eucjis2004", "jisx0213"]),
    (iso2022Japanese, ["csiso2022jp", "iso2022_jp", "iso2022jp", "iso_2022_jp"]),
    (iso2022Japanese1, ["iso2022_jp_1", "iso2022jp_1", "iso_2022_jp_1"]),
    (iso2022Japanese2, ["iso2022_jp_2", "iso2022jp_2", "iso_2022_jp_2"]),
    (iso2022Japanese0213 .first, ["iso2022_jp_3", "iso2022jp_3", "iso_2022_jp_3"]),
    (iso2022Japanese0213 .second, ["iso2022_jp_2004", "iso2022jp_2004", "iso_2022_jp_2004"]),
    (iso2022JapaneseExtended, ["iso2022_jp_ext", "iso2022jp_ext", "iso_2022_jp_ext"])
  ]

/-- The charset of a label. -/
def ofLabel? (label : String) : Option DoubleByteSet :=
  (labels.find? (·.2.contains label)).map (·.1)

open Reading in
/-- The characters of bytes. -/
def read (bytes : List Nat) : DoubleByteSet → Except CharsetError (List (Option Char))
  | .gb2312 => run (pairs Chinese.gb2312?) () bytes
  | .gbk => run (pairs Chinese.gbk?) () bytes
  | .gb18030 => run Chinese.gb18030Step () bytes
  | .hz => run Chinese.hzStep false bytes
  | .big5 => run (pairs Chinese.big5?) () bytes
  | .windowsBig5 => run (pairs Chinese.windowsBig5?) () bytes
  | .hongKong => run Chinese.hongKongStep () bytes
  | .eucKorean => run Korean.twoByteStep () bytes
  | .windowsKorean => run (pairs Korean.windows?) () bytes
  | .johab => run (pairs Korean.johab?) () bytes
  | .iso2022Korean => run (Iso2022.step Iso2022.korean) {} bytes
  | .shiftJis => run Japanese.shiftJisStep () bytes
  | .windowsJapanese => run Japanese.windowsStep () bytes
  | .shiftJis0213 e => run (Japanese.shiftJis0213Step e) () bytes
  | .eucJapanese => run Japanese.eucStep () bytes
  | .euc0213 e => run (Japanese.euc0213Step e) () bytes
  | .iso2022Japanese => run (Iso2022.step Iso2022.japanese) {} bytes
  | .iso2022Japanese1 => run (Iso2022.step Iso2022.japanese1) {} bytes
  | .iso2022Japanese2 => run (Iso2022.step Iso2022.japanese2) {} bytes
  | .iso2022Japanese0213 e => run (Iso2022.step (Iso2022.japanese0213 e)) {} bytes
  | .iso2022JapaneseExtended => run (Iso2022.step Iso2022.japaneseExtended) {} bytes

end DoubleByteSet

end Text

end TokenBroker
