import ReorgGuard.Text.Plane.Chinese
import ReorgGuard.Text.Plane.Japanese
import ReorgGuard.Text.Plane.Korean
import ReorgGuard.Text.Plane.Taiwanese
import ReorgGuard.Text.Runs

/-!
Character sets of East Asia, which write most characters as two octets.

Each set has a plane of characters: rows of places, counted from nought.  Where sets share a plane, they
differ in a few places, which are patches upon it.  What the plane leaves out of a range of code points
may follow outside of it, in order.  Octets that are no character are replaced one at a time, and an
unfinished character at the end is replaced as one.
-/

namespace ReorgGuard.Text

def replacement : Char := Char.ofNat 0xFFFD

/-- Rows of places; a full stop is a place without character. -/
abbrev Plane := Array (Array Char)

def planeOf (s : String) : Plane := ((wordsOf s).map List.toArray).toArray

def Plane.char? (plane : Plane) (row column : Nat) : Option Char :=
  (plane[row]?.bind (·[column]?)).filter (· != '.')

/-- Characters from a place on; they may run on through rows of 94 places. -/
structure Patch where
  row : Nat
  column : Nat
  text : List Char

def patched? (patches : List Patch) (row column : Nat) : Option Char :=
  let place := row * 94 + column
  patches.findSome? fun p =>
    let start := p.row * 94 + p.column
    if start ≤ place then (p.text[place - start]?).filter (· != '.') else none

def charsIn (s : String) : List Char := (wordsOf s).flatten

inductive PairSet where
  | shiftJis
  | cp932
  | eucJp
  | gb2312
  | gbk
  | gb18030
  | big5
  | cp950
  | eucKr
  | cp949

namespace PairSet

def rows : PairSet → String
  | shiftJis => japaneseRows
  | cp932 => japaneseRows
  | eucJp => japaneseRows
  | gb2312 => chineseRows
  | gbk => chineseRows
  | gb18030 => chineseRows
  | big5 => taiwaneseRows
  | cp950 => taiwaneseRows
  | eucKr => koreanRows
  | cp949 => koreanRows

/-- Ideographs that computer makers added to the Japanese plane, twice over. -/
def makersIdeographs : List Char :=
  charsIn
    "纊褜鍈銈蓜俉炻昱棈鋹曻彅丨仡仼伀伃伹佖侒侊侚侔俍偀倢俿倞偆偰偂傔僴僘兊兤冝冾凬刕劜劦勀勛匀匇匤卲厓厲叝﨎咜咊咩哿喆坙坥垬埈埇﨏塚增墲夋奓奛奝奣妤妺孖寀甯寘寬尞岦
     岺峵崧嵓﨑嵂嵭嶸嶹巐弡弴彧德忞恝悅悊惞惕愠惲愑愷愰憘戓抦揵摠撝擎敎昀昕昻昉昮昞昤晥晗晙晴晳暙暠暲暿曺朎朗杦枻桒柀栁桄棏﨓楨﨔榘槢樰橫橆橳橾櫢櫤毖氿汜沆汯泚洄涇浯
     涖涬淏淸淲淼渹湜渧渼溿澈澵濵瀅瀇瀨炅炫焏焄煜煆煇凞燁燾犱犾猤猪獷玽珉珖珣珒琇珵琦琪琩琮瑢璉璟甁畯皂皜皞皛皦益睆劯砡硎硤硺礰礼神祥禔福禛竑竧靖竫箞精絈絜綷綠緖繒罇
     羡羽茁荢荿菇菶葈蒴蕓蕙蕫﨟薰蘒﨡蠇裵訒訷詹誧誾諟諸諶譓譿賰賴贒赶﨣軏﨤逸遧郞都鄕鄧釚釗釞釭釮釤釥鈆鈐鈊鈺鉀鈼鉎鉙鉑鈹鉧銧鉷鉸鋧鋗鋙鋐﨧鋕鋠鋓錥錡鋻﨨錞鋿錝錂鍰鍗
     鎤鏆鏞鏸鐱鑅鑈閒隆﨩隝隯霳霻靃靍靏靑靕顗顥飯飼餧館馞驎髙髜魵魲鮏鮱鮻鰀鵰鵫鶴鸙黑"

def japanesePatches : List Patch :=
  [⟨0, 32, ['～', '∥']⟩, ⟨0, 60, ['－']⟩, ⟨0, 80, ['￠', '￡']⟩, ⟨1, 43, ['￢']⟩,
    ⟨12, 0, charsIn
      "①②③④⑤⑥⑦⑧⑨⑩⑪⑫⑬⑭⑮⑯⑰⑱⑲⑳ⅠⅡⅢⅣⅤⅥⅦⅧⅨⅩ.㍉㌔㌢㍍㌘㌧㌃㌶㍑㍗㌍㌦㌣㌫㍊㌻㎜㎝㎞㎎㎏㏄㎡........㍻〝〟№㏍℡㊤㊥㊦㊧㊨㈱㈲㈹㍾㍽㍼≒≡∫∮∑√⊥∠∟⊿∵∩∪"⟩,
    ⟨88, 0, makersIdeographs ++ charsIn "..ⅰⅱⅲⅳⅴⅵⅶⅷⅸⅹ￢￤＇＂"⟩,
    ⟨114, 0, charsIn "ⅰⅱⅲⅳⅴⅵⅶⅷⅸⅹⅠⅡⅢⅣⅤⅥⅦⅧⅨⅩ￢￤＇＂㈱№℡∵" ++ makersIdeographs⟩]

def chinesePatches : List Patch :=
  [⟨0, 3, ['·']⟩, ⟨0, 9, ['—']⟩, ⟨1, 0, charsIn "ⅰⅱⅲⅳⅴⅵⅶⅷⅸⅹ"⟩,
    ⟨5, 63, charsIn "︵︶︹︺︿﹀︽︾﹁﹂﹃﹄..︻︼︷︸︱.︳︴"⟩, ⟨7, 26, charsIn "ɑ.ńň.ɡ"⟩]

def taiwanesePatches : List Patch :=
  [⟨0, 5, ['‧']⟩, ⟨0, 14, ['﹑']⟩, ⟨1, 33, ['¯']⟩, ⟨1, 66, ['～']⟩, ⟨1, 81, ['⊕', '⊙']⟩, ⟨2, 1, ['∕', '﹨']⟩,
    ⟨2, 4, ['￥']⟩, ⟨2, 6, ['￠', '￡']⟩, ⟨5, 64, ['€']⟩,
    ⟨177, 53, charsIn "碁銹裏墻恒粧嫺╔╦╗╠╬╣╚╩╝╒╤╕╞╪╡╘╧╛╓╥╖╟╫╢╙╨╜║═╭╮╰╯▓"⟩]

def patches : PairSet → List Patch
  | cp932 => japanesePatches
  | gbk => chinesePatches
  | gb18030 => chinesePatches
  | cp950 => taiwanesePatches
  | _ => []

/-- The place of a second octet among those from 40 on without 7F. -/
def columnOf? (b : Nat) : Option Nat :=
  if b < 0x40 ∨ b = 0x7F then none else some (if b < 0x7F then b - 0x40 else b - 0x41)

def place? (set : PairSet) (a b : Nat) : Option (Nat × Nat) :=
  let shifted : Option (Nat × Nat) := do
    let column ← (columnOf? b).filter (· < 188)
    let lead ←
      if 0x81 ≤ a ∧ a < 0xA0 then some (a - 0x81)
      else if 0xE0 ≤ a ∧ a ≤ 0xFC then some (a - 0xC1)
      else none
    some (2 * lead + column / 94, column % 94)
  let halved : Option (Nat × Nat) :=
    if a < 0xA1 ∨ 0xF9 < a then none
    else if 0x40 ≤ b ∧ b < 0x7F then some (2 * (a - 0xA1), b - 0x40)
    else if 0xA1 ≤ b ∧ b < 0xFF then some (2 * (a - 0xA1) + 1, b - 0xA1)
    else none
  let plain : Option (Nat × Nat) :=
    if 0xA1 ≤ a ∧ a < 0xFF ∧ 0xA1 ≤ b ∧ b < 0xFF then some (a - 0xA1, b - 0xA1) else none
  match set with
  | shiftJis => shifted
  | cp932 => shifted
  | big5 => halved
  | cp950 => halved
  | _ => plain

def outside? (set : PairSet) (a b : Nat) : Option Nat :=
  let chinese : Option Nat := do
    let column ← (columnOf? b).filter (· < 190)
    if 0x81 ≤ a ∧ a ≤ 0xA0 then some ((a - 0x81) * 190 + column)
    else if 0xAA ≤ a ∧ a < 0xFF ∧ b < 0xA1 then some (6080 + (a - 0xAA) * 96 + column)
    else none
  let korean : Option Nat := do
    let column ←
      if 0x41 ≤ b ∧ b ≤ 0x5A then some (b - 0x41)
      else if 0x61 ≤ b ∧ b ≤ 0x7A then some (b - 0x61 + 26)
      else if 0x81 ≤ b ∧ b < 0xFF then some (b - 0x81 + 52)
      else none
    if 0x81 ≤ a ∧ a ≤ 0xA0 then some ((a - 0x81) * 178 + column)
    else if 0xA1 ≤ a ∧ a < 0xFF ∧ b < 0xA1 then some (5696 + (a - 0xA1) * 84 + column)
    else none
  match set with
  | gbk => chinese
  | gb18030 => chinese
  | cp949 => korean
  | _ => none

def marksOf (codes : List Nat) : Array Bool :=
  codes.foldl (fun marks n => marks.setIfInBounds n true) (Array.replicate 0x10000 false)

def unmarked (marks : Array Bool) (first count : Nat) : List Nat :=
  ((List.range count).map (first + ·)).filter fun n => !marks.getD n false

def outsideCodes (set : PairSet) (plane : Plane) : Array Nat :=
  let marks := marksOf (plane.toList.flatMap fun row => row.toList.map Char.toNat)
  let chinese : Array Nat :=
    (unmarked marks 0x4E00 0x51A6 ++
      ((runsOf "F92C F979 F995 F9E7 F9F1 FA0C-FA0F FA11 FA13-FA14 FA18 FA1F-FA21 FA23-FA24 FA27-FA29").flatMap
        fun run => (List.range (run.2 + 1 - run.1)).map (run.1 + ·))).toArray
  match set with
  | gbk => chinese
  | gb18030 => chinese
  | cp949 => (unmarked marks 0xAC00 0x2BA4).toArray
  | _ => #[]

/-- Signs in two rows of the wider Chinese sets that begin before the plane. -/
def chineseSigns : List (Nat × List Char) :=
  [(0xA8, charsIn
      "ˊˋ˙–―‥‵℅℉↖↗↘↙∕∟∣≒≦≧⊿═║╒╓╔╕╖╗╘╙╚╛╜╝╞╟╠╡╢╣╤╥╦╧╨╩╪╫╬╭╮╯╰╱╲╳▁▂▃▄▅▆▇█▉▊▋▌▍▎▏▓▔▕▼▽◢◣◤◥☉⊕〒〝〞"),
    (0xA9, charsIn
      "〡〢〣〤〥〦〧〨〩㊣㎎㎏㎜㎝㎞㎡㏄㏎㏑㏒㏕︰￢￤.℡㈱.‐...ー゛゜ヽヾ〆ゝゞ﹉﹊﹋﹌﹍﹎﹏﹐﹑﹒﹔﹕﹖﹗﹙﹚﹛﹜﹝﹞﹟﹠﹡﹢﹣﹤﹥﹦﹨﹩﹪﹫.............〇")]

def narrow? (n : Nat) : Option Char :=
  if 0xA1 ≤ n ∧ n ≤ 0xDF then some (Char.ofNat (0xFF61 + n - 0xA1)) else none

def one? (set : PairSet) (n : Nat) : Option Char :=
  match set with
  | shiftJis => narrow? n
  | cp932 =>
      if n = 0x80 then some '\x80'
      else if n = 0xA0 then some (Char.ofNat 0xF8F0)
      else if 0xFD ≤ n then some (Char.ofNat (0xF8F1 + n - 0xFD))
      else narrow? n
  | _ => none

/-! ### Pairs -/

structure Tables where
  set : PairSet
  plane : Plane
  patches : List Patch
  outside : Array Nat

def tables (set : PairSet) : Tables :=
  let plane := planeOf set.rows
  ⟨set, plane, set.patches, set.outsideCodes plane⟩

def Tables.shared? (t : Tables) (a b : Nat) : Option Char :=
  let signs := (chineseSigns.lookup a).bind fun signs =>
    ((columnOf? b).filter (· < 96)).bind fun column => (signs[column]?).filter (· != '.')
  let upon := (t.set.place? a b).bind fun (row, column) =>
    (patched? t.patches row column).or (t.plane.char? row column)
  let beyond := ((t.set.outside? a b).bind (t.outside[·]?)).map Char.ofNat
  match t.set with
  | gbk => upon.or (beyond.or signs)
  | gb18030 => upon.or (beyond.or signs)
  | cp949 => upon.or beyond
  | eucKr => upon.filter (· != '\u3164')
  | eucJp => if a = 0x8E then narrow? b else upon
  | cp932 =>
      if 0xF0 ≤ a ∧ a ≤ 0xF9 then
        ((columnOf? b).filter (· < 188)).map fun column => Char.ofNat (0xE000 + (a - 0xF0) * 188 + column)
      else upon
  | _ => upon

/-! ### The set of four octets -/

def ownChars : List ((Nat × Nat) × List Char) :=
  [((0xA2, 0xE3), ['€']),
    ((0xA8, 0xBF), ['ǹ']),
    ((0xA9, 0x89), charsIn "〾⿰⿱⿲⿳⿴⿵⿶⿷⿸⿹⿺⿻"),
    ((0xFE, 0x50), ['⺁']),
    ((0xFE, 0x54), charsIn "⺄㑳㑇⺈⺋.㖞㘚㘎⺌⺗㥮㤘.㧏㧟㩳㧐..㭎㱮㳠⺧..⺪䁖䅟⺮䌷⺳⺶⺷.䎱䎬⺻䏝䓖䙡䙌..䜣䜩䝼䞍⻊䥇䥺䥽䦂䦃䦅䦆䦟䦛䦷䦶..䲣䲟䲠䲡䱷䲢䴓䴔䴕䴖䴗䴘䴙䶮")]

def privateUse? (a b : Nat) : Option Nat :=
  if 0xAA ≤ a ∧ a ≤ 0xAF ∧ 0xA1 ≤ b then some (0xE000 + (a - 0xAA) * 94 + (b - 0xA1))
  else if 0xF8 ≤ a ∧ a ≤ 0xFE ∧ 0xA1 ≤ b then some (0xE234 + (a - 0xF8) * 94 + (b - 0xA1))
  else if 0xA1 ≤ a ∧ a ≤ 0xA7 ∧ b ≤ 0xA0 then (columnOf? b).map fun column => 0xE4C6 + (a - 0xA1) * 96 + column
  else none

def allPairs : List (Nat × Nat) :=
  (List.range 126).flatMap fun a =>
    ((List.range 191).map (· + 0x40)).filterMap fun b => if b = 0x7F then none else some (a + 0x81, b)

/-- The pairs that are left over for private use. -/
def leftOver (t : Tables) : List (Nat × Nat) :=
  allPairs.filter fun (a, b) => (t.shared? a b).isNone && (privateUse? a b).isNone

def own? (a b : Nat) : Option Char :=
  ownChars.findSome? fun (start, chars) =>
    if start.1 = a ∧ start.2 ≤ b then (chars[b - start.2]?).filter (· != '.') else none

structure Reading where
  tables : Tables
  leftOver : Array (Nat × Nat)
  /-- The code points of four octets up to FFFF, in order. -/
  fours : Array Nat

def Reading.pair? (r : Reading) (a b : Nat) : Option Char :=
  match r.tables.set with
  | gb18030 =>
      if a < 0x81 ∨ 0xFE < a ∨ b < 0x40 ∨ b = 0x7F ∨ 0xFE < b then none
      else
        ((r.tables.shared? a b).or (own? a b)).or
          (((privateUse? a b).or ((r.leftOver.findIdx? (· = (a, b))).map (0xE766 + ·))).map Char.ofNat)
  | _ => r.tables.shared? a b

def reading (set : PairSet) : Reading :=
  let t := set.tables
  match set with
  | gb18030 =>
      let pairsOnly : Reading := ⟨t, (leftOver t).toArray, #[]⟩
      let taken := allPairs.filterMap fun (a, b) => (pairsOnly.pair? a b).map Char.toNat
      let marks := marksOf taken
      let fours := (unmarked marks 0x80 0xD780 ++ unmarked marks 0xE000 0x2000).toArray
      { pairsOnly with fours := fours }
  | _ => ⟨t, #[], #[]⟩

/-- The character of four octets, of which the second and the last are digits. -/
def Reading.four? (r : Reading) (a b c d : Nat) : Option Char :=
  if a < 0x81 ∨ 0xFE < a ∨ c < 0x81 ∨ 0xFE < c ∨ d < 0x30 ∨ 0x39 < d then none
  else
    let place := (((a - 0x81) * 10 + (b - 0x30)) * 126 + (c - 0x81)) * 10 + (d - 0x30)
    if place < r.fours.size then (r.fours[place]?).map Char.ofNat
    else if 189000 ≤ place ∧ place < 189000 + 0x100000 then some (Char.ofNat (place - 189000 + 0x10000))
    else none

def Reading.first (r : Reading) (a : Nat) (rest : List Nat) : Char × Nat :=
  if a < 0x80 then (Char.ofNat a, 1)
  else
    match r.tables.set.one? a, rest with
    | some c, _ => (c, 1)
    | none, [] => (replacement, 1)
    | none, b :: others =>
        let isLong : Bool :=
          match r.tables.set with
          | gb18030 => 0x30 ≤ b && b ≤ 0x39
          | _ => false
        if isLong then
          match others with
          | c :: d :: _ =>
              match r.four? a b c d with
              | some char => (char, 4)
              | none => (replacement, 1)
          | _ => (replacement, rest.length + 1)
        else
          match r.pair? a b with
          | some char => (char, 2)
          | none => (replacement, 1)

def Reading.readFrom (r : Reading) (fuel : Nat) (octets : List Nat) : List Char :=
  match fuel, octets with
  | 0, _ => []
  | _, [] => []
  | fuel + 1, a :: rest =>
      let (c, width) := r.first a rest
      c :: r.readFrom fuel (rest.drop (width - 1))

def read (set : PairSet) (octets : List UInt8) : List Char :=
  set.reading.readFrom octets.length (octets.map UInt8.toNat)

end PairSet

def pairSets : List (String × PairSet) :=
  [("shift_jis csshiftjis s_jis shiftjis sjis x_mac_japanese", .shiftJis),
    ("cp932 932 ms932 ms_kanji mskanji", .cp932),
    ("euc_jp eucjp u_jis ujis", .eucJp),
    ("gb2312 chinese csiso58gb231280 euc_cn euccn eucgb2312_cn gb2312_1980 gb2312_80 iso_ir_58 x_mac_simp_chinese", .gb2312),
    ("gbk 936 cp936 ms936", .gbk),
    ("gb18030 gb18030_2000", .gb18030),
    ("big5 big5_tw csbig5 x_mac_trad_chinese", .big5),
    ("cp950 950 ms950", .cp950),
    ("euc_kr euckr korean ks_c_5601 ks_c_5601_1987 ks_x_1001 ksc5601 ksx1001 x_mac_korean", .eucKr),
    ("cp949 949 ms949 uhc", .cp949)]

end ReorgGuard.Text
