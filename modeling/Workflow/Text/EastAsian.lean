import Workflow.Text.CodePage
import Workflow.Text.Multibyte

/-!
# The encodings of East Asia

`EastAsian` lists the encodings with characters of several bytes, with their names and what reads them.
-/
namespace Workflow.Text

inductive EastAsian where
  | gb2312
  | gbk
  | gb18030
  | hz
  | big5
  | codePage950
  | hongKong
  | eucKr
  | codePage949
  | johab
  | iso2022Kr
  | shiftJis
  | shiftJis2000
  | shiftJis2004
  | codePage932
  | eucJp
  | eucJis2000
  | eucJis2004
  | iso2022Jp
  | iso2022Jp1
  | iso2022Jp2
  | iso2022Jp3
  | iso2022Jp2004
  | iso2022JpExtended
deriving DecidableEq

namespace EastAsian

def name : EastAsian → String
  | gb2312 => "gb2312"
  | gbk => "gbk"
  | gb18030 => "gb18030"
  | hz => "hz"
  | big5 => "big5"
  | codePage950 => "cp950"
  | hongKong => "big5hkscs"
  | eucKr => "euc_kr"
  | codePage949 => "cp949"
  | johab => "johab"
  | iso2022Kr => "iso2022_kr"
  | shiftJis => "shift_jis"
  | shiftJis2000 => "shift_jisx0213"
  | shiftJis2004 => "shift_jis_2004"
  | codePage932 => "cp932"
  | eucJp => "euc_jp"
  | eucJis2000 => "euc_jisx0213"
  | eucJis2004 => "euc_jis_2004"
  | iso2022Jp => "iso2022_jp"
  | iso2022Jp1 => "iso2022_jp_1"
  | iso2022Jp2 => "iso2022_jp_2"
  | iso2022Jp3 => "iso2022_jp_3"
  | iso2022Jp2004 => "iso2022_jp_2004"
  | iso2022JpExtended => "iso2022_jp_ext"

/-- The encodings with their other names. -/
def all : List (EastAsian × List String) := [
  (gb2312, ["chinese", "csiso58gb231280", "euc_cn", "euccn", "eucgb2312_cn", "gb2312_1980",
    "gb2312_80", "iso_ir_58", "x_mac_simp_chinese"]),
  (gbk, ["936", "cp936", "ms936"]),
  (gb18030, ["gb18030_2000"]),
  (hz, ["hz_gb", "hz_gb_2312", "hzgb"]),
  (big5, ["big5_tw", "csbig5", "x_mac_trad_chinese"]),
  (codePage950, ["950", "ms950"]),
  (hongKong, ["big5_hkscs", "hkscs"]),
  (eucKr, ["euckr", "korean", "ks_c_5601", "ks_c_5601_1987", "ks_x_1001", "ksc5601", "ksx1001",
    "x_mac_korean"]),
  (codePage949, ["949", "ms949", "uhc"]),
  (johab, ["cp1361", "ms1361"]),
  (iso2022Kr, ["csiso2022kr", "iso2022kr", "iso_2022_kr"]),
  (shiftJis, ["csshiftjis", "s_jis", "shiftjis", "sjis", "x_mac_japanese"]),
  (shiftJis2000, ["s_jisx0213", "shiftjisx0213", "sjisx0213"]),
  (shiftJis2004, ["s_jis_2004", "shiftjis2004", "sjis_2004"]),
  (codePage932, ["932", "ms932", "ms_kanji", "mskanji"]),
  (eucJp, ["eucjp", "u_jis", "ujis"]),
  (eucJis2000, ["eucjisx0213"]),
  (eucJis2004, ["euc_jis2004", "eucjis2004", "jisx0213"]),
  (iso2022Jp, ["csiso2022jp", "iso2022jp", "iso_2022_jp"]),
  (iso2022Jp1, ["iso2022jp_1", "iso_2022_jp_1"]),
  (iso2022Jp2, ["iso2022jp_2", "iso_2022_jp_2"]),
  (iso2022Jp3, ["iso2022jp_3", "iso_2022_jp_3"]),
  (iso2022Jp2004, ["iso2022jp_2004", "iso_2022_jp_2004"]),
  (iso2022JpExtended, ["iso2022jp_ext", "iso_2022_jp_ext"])]

/-- The Greek letters of single bytes. -/
def greekChar? (b : Nat) : Option Char :=
  (CodePage.all.find? (·.name == "iso8859_7")).bind fun page => page.char? (UInt8.ofNat b)

/-- The text of bytes, or the position and the count of those that cannot be read and whether only
their rest is missing. -/
def read (e : EastAsian) (bytes : List UInt8) : Except (Nat × Nat × Bool) (List Char) :=
  let pairs (step : Step Unit) := readSteps step bytes.length () 0 bytes
  let shifts (d : Designations) := readSteps (shiftStep greekChar? d) bytes.length {} 0 bytes
  match e with
  | gb2312 => pairs (pairStep gb2312Char?)
  | gbk => pairs (pairStep gbkChar?)
  | gb18030 => pairs gb18030Step
  | hz => readSteps hzStep bytes.length false 0 bytes
  | big5 => pairs (pairStep big5Char?)
  | codePage950 => pairs (pairStep codePage950Char?)
  | hongKong => pairs hongKongStep
  | eucKr => pairs eucKrStep
  | codePage949 => pairs (pairStep codePage949Char?)
  | johab => pairs (pairStep johabChar?)
  | iso2022Kr => shifts .korean
  | shiftJis => pairs shiftJisStep
  | shiftJis2000 => pairs (shiftJisPlaneStep .first)
  | shiftJis2004 => pairs (shiftJisPlaneStep .second)
  | codePage932 => pairs codePage932Step
  | eucJp => pairs eucJpStep
  | eucJis2000 => pairs (eucJisStep .first)
  | eucJis2004 => pairs (eucJisStep .second)
  | iso2022Jp => shifts .japanese
  | iso2022Jp1 => shifts .japanese1
  | iso2022Jp2 => shifts .japanese2
  | iso2022Jp3 => shifts .japanese3
  | iso2022Jp2004 => shifts .japanese2004
  | iso2022JpExtended => shifts .japaneseExtended

end EastAsian

end Workflow.Text
