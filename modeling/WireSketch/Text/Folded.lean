import WireSketch.Text.CharRange

/-! Names written in one way: styled letters become plain ones, and marks join their letters. -/
namespace WireSketch.Text

/-- Marks, each with letters and what they become under the mark, in turns. -/
def marked : List (Nat × String) := [
  (0x300, "AÀEÈIÌOÒUÙaàeèiìoòuùÜǛüǜNǸnǹЕЀИЍеѐиѝĒḔēḕŌṐōṑWẀwẁÂẦâầĂẰăằÊỀêềÔỒôồƠỜơờƯỪưừ"),
  (0x300, "YỲyỳ"),
  (0x301, "AÁEÉIÍOÓUÚYÝaáeéiíoóuúyýCĆcćLĹlĺNŃnńRŔrŕSŚsśZŹzźÜǗüǘGǴgǵÅǺåǻÆǼæǽØǾøǿΑΆΕΈ"),
  (0x301, "ΗΉΙΊΟΌΥΎΩΏϊΐαάεέηήιίϋΰοόυύωώϒϓГЃКЌгѓкќÇḈçḉĒḖēḗÏḮïḯKḰkḱMḾmḿÕṌõṍŌṒōṓPṔpṕŨṸ"),
  (0x301, "ũṹWẂwẃÂẤâấĂẮăắÊẾêếÔỐôốƠỚơớƯỨưứ"),
  (0x302, "AÂEÊIÎOÔUÛaâeêiîoôuûCĈcĉGĜgĝHĤhĥJĴjĵSŜsŝWŴwŵYŶyŷZẐzẑẠẬạậẸỆẹệỌỘọộ"),
  (0x303, "AÃNÑOÕaãnñoõIĨiĩUŨuũVṼvṽÂẪâẫĂẴăẵEẼeẽÊỄêễÔỖôỗƠỠơỡƯỮưữYỸyỹ"),
  (0x304, "AĀaāEĒeēIĪiīOŌoōUŪuūÜǕüǖÄǞäǟȦǠȧǡÆǢæǣǪǬǫǭÖȪöȫÕȬõȭȮȰȯȱYȲyȳИӢиӣУӮуӯGḠgḡḶḸḷḹ"),
  (0x304, "ṚṜṛṝ"),
  (0x306, "AĂaăEĔeĕGĞgğIĬiĭOŎoŏUŬuŭУЎИЙийуўЖӁжӂАӐаӑЕӖеӗȨḜȩḝẠẶạặ"),
  (0x307, "CĊcċEĖeėGĠgġIİZŻzżAȦaȧOȮoȯBḂbḃDḊdḋFḞfḟHḢhḣMṀmṁNṄnṅPṖpṗRṘrṙSṠsṡŚṤśṥŠṦšṧṢṨ"),
  (0x307, "ṣṩTṪtṫWẆwẇXẊxẋYẎyẏſẛ"),
  (0x308, "AÄEËIÏOÖUÜaäeëiïoöuüyÿYŸΙΪΥΫιϊυϋϒϔЕЁІЇеёіїАӒаӓӘӚәӛЖӜжӝЗӞзӟИӤиӥОӦоӧӨӪөӫЭӬ"),
  (0x308, "эӭУӰуӱЧӴчӵЫӸыӹHḦhḧÕṎõṏŪṺūṻWẄwẅXẌxẍtẗ"),
  (0x309, "AẢaảÂẨâẩĂẲăẳEẺeẻÊỂêểIỈiỉOỎoỏÔỔôổƠỞơởUỦuủƯỬưửYỶyỷ"),
  (0x30a, "AÅaåUŮuůwẘyẙ"),
  (0x30b, "OŐoőUŰuűУӲуӳ"),
  (0x30c, "CČcčDĎdďEĚeěLĽlľNŇnňRŘrřSŠsšTŤtťZŽzžAǍaǎIǏiǐOǑoǒUǓuǔÜǙüǚGǦgǧKǨkǩƷǮʒǯjǰHȞ"),
  (0x30c, "hȟ"),
  (0x30f, "AȀaȁEȄeȅIȈiȉOȌoȍRȐrȑUȔuȕѴѶѵѷ"),
  (0x311, "AȂaȃEȆeȇIȊiȋOȎoȏRȒrȓUȖuȗ"),
  (0x31b, "OƠoơUƯuư"),
  (0x323, "BḄbḅDḌdḍHḤhḥKḲkḳLḶlḷMṂmṃNṆnṇRṚrṛSṢsṣTṬtṭVṾvṿWẈwẉZẒzẓAẠaạEẸeẹIỊiịOỌoọƠỢơợ"),
  (0x323, "UỤuụƯỰưựYỴyỵ"),
  (0x324, "UṲuṳ"),
  (0x325, "AḀaḁ"),
  (0x326, "SȘsșTȚtț"),
  (0x327, "CÇcçGĢgģKĶkķLĻlļNŅnņRŖrŗSŞsşTŢtţEȨeȩDḐdḑHḨhḩ"),
  (0x328, "AĄaąEĘeęIĮiįUŲuųOǪoǫ"),
  (0x32d, "DḒdḓEḘeḙLḼlḽNṊnṋTṰtṱUṶuṷ"),
  (0x32e, "HḪhḫ"),
  (0x330, "EḚeḛIḬiḭUṴuṵ"),
  (0x331, "BḆbḇDḎdḏKḴkḵLḺlḻNṈnṉRṞrṟTṮtṯZẔzẕhẖ")
]

/-- Letters of other shapes, each with the plain letters, in turns. -/
def shaped : List (String × String) := [
  ("ª", "a"), ("µ", "μ"), ("º", "o"), ("Ĳ", "IJ"), ("ĳ", "ij"), ("Ŀ", "L·"), ("ŀ", "l·"),
  ("ŉ", "ʼn"), ("ſ", "s"), ("Ǆ", "DŽ"), ("ǅ", "Dž"), ("ǆ", "dž"), ("Ǉ", "LJ"), ("ǈ", "Lj"),
  ("ǉ", "lj"), ("Ǌ", "NJ"), ("ǋ", "Nj"), ("ǌ", "nj"), ("Ǳ", "DZ"), ("ǲ", "Dz"), ("ǳ", "dz"),
  ("ʰ", "h"), ("ʱ", "ɦ"), ("ʲ", "j"), ("ʳ", "r"), ("ʴ", "ɹ"), ("ʵ", "ɻ"), ("ʶ", "ʁ"), ("ʷ", "w"),
  ("ʸ", "y"), ("ˠ", "ɣ"), ("ˡ", "l"), ("ˢ", "s"), ("ˣ", "x"), ("ˤ", "ʕ"), ("ϐ", "β"), ("ϑ", "θ"),
  ("ϒ", "Υ"), ("ϕ", "φ"), ("ϖ", "π"), ("ϰ", "κ"), ("ϱ", "ρ"), ("ϲ", "ς"), ("ϴ", "Θ"), ("ϵ", "ε"),
  ("Ϲ", "Σ"), ("ⁱ", "i"), ("ⁿ", "n"), ("ₐ", "a"), ("ₑ", "e"), ("ₒ", "o"), ("ₓ", "x"), ("ₔ", "ə"),
  ("ₕ", "h"), ("ₖ", "k"), ("ₗ", "l"), ("ₘ", "m"), ("ₙ", "n"), ("ₚ", "p"), ("ₛ", "s"), ("ₜ", "t"),
  ("ℂ", "C"), ("ℇ", "Ɛ"), ("ℊ", "g"), ("ℋ", "H"), ("ℌ", "H"), ("ℍ", "H"), ("ℎ", "h"), ("ℏ", "ħ"),
  ("ℐ", "I"), ("ℑ", "I"), ("ℒ", "L"), ("ℓ", "l"), ("ℕ", "N"), ("ℙ", "P"), ("ℚ", "Q"), ("ℛ", "R"),
  ("ℜ", "R"), ("ℝ", "R"), ("ℤ", "Z"), ("Ω", "Ω"), ("ℨ", "Z"), ("K", "K"), ("Å", "Å"), ("ℬ", "B"),
  ("ℭ", "C"), ("ℯ", "e"), ("ℰ", "E"), ("ℱ", "F"), ("ℳ", "M"), ("ℴ", "o"), ("ℵ", "א"), ("ℶ", "ב"),
  ("ℷ", "ג"), ("ℸ", "ד"), ("ℹ", "i"), ("ℼ", "π"), ("ℽ", "γ"), ("ℾ", "Γ"), ("ℿ", "Π"), ("ⅅ", "D"),
  ("ⅆ", "d"), ("ⅇ", "e"), ("ⅈ", "i"), ("ⅉ", "j"), ("Ⅰ", "I"), ("Ⅱ", "II"), ("Ⅲ", "III"),
  ("Ⅳ", "IV"), ("Ⅴ", "V"), ("Ⅵ", "VI"), ("Ⅶ", "VII"), ("Ⅷ", "VIII"), ("Ⅸ", "IX"), ("Ⅹ", "X"),
  ("Ⅺ", "XI"), ("Ⅻ", "XII"), ("Ⅼ", "L"), ("Ⅽ", "C"), ("Ⅾ", "D"), ("Ⅿ", "M"), ("ⅰ", "i"),
  ("ⅱ", "ii"), ("ⅲ", "iii"), ("ⅳ", "iv"), ("ⅴ", "v"), ("ⅵ", "vi"), ("ⅶ", "vii"), ("ⅷ", "viii"),
  ("ⅸ", "ix"), ("ⅹ", "x"), ("ⅺ", "xi"), ("ⅻ", "xii"), ("ⅼ", "l"), ("ⅽ", "c"), ("ⅾ", "d"),
  ("ⅿ", "m"), ("ﬀ", "ff"), ("ﬁ", "fi"), ("ﬂ", "fl"), ("ﬃ", "ffi"), ("ﬄ", "ffl"), ("ﬅ", "st"),
  ("ﬆ", "st")
]

/-- Mathematical letters come in alphabets of 52, and in Greek ones of 58; then digits follow. -/
def mathematical (n : Nat) : Option Char :=
  let greek := "ΑΒΓΔΕΖΗΘΙΚΛΜΝΞΟΠΡΘΣΤΥΦΧΨΩ∇αβγδεζηθικλμνξοπρςστυφχψω∂εθκφρπ".toList
  if 0x1d400 ≤ n && n < 0x1d6a4 then
    let i := (n - 0x1d400) % 52
    some (Char.ofNat (if i < 26 then 0x41 + i else 0x61 + i - 26))
  else if n == 0x1d6a4 then some 'ı'
  else if n == 0x1d6a5 then some 'ȷ'
  else if 0x1d6a8 ≤ n && n < 0x1d7ca then greek[(n - 0x1d6a8) % 58]?
  else if n == 0x1d7ca then some 'Ϝ'
  else if n == 0x1d7cb then some 'ϝ'
  else if 0x1d7ce ≤ n && n < 0x1d800 then some (Char.ofNat (0x30 + (n - 0x1d7ce) % 10))
  else none

/-- The plain letters that a letter or digit in a name stands for. -/
def plainLetters (c : Char) : List Char :=
  let n := c.toNat
  if n < 0x80 then [c]
  else if 0xff10 ≤ n && n ≤ 0xff5a then [Char.ofNat (n - 0xff10 + 0x30)]
  else
    match mathematical n with
    | some c => [c]
    | none => ((shaped.lookup (String.singleton c)).map String.toList).getD [c]

/-- The second of the two in turns. -/
def partner? (c : Char) : List Char → Option Char
  | a :: b :: rest => if a == c then some b else partner? c rest
  | _ => none

/-- A letter under a mark as one letter. -/
def joined? (letter mark : Char) : Option Char :=
  marked.findSome? fun (m, pairs) => if m == mark.toNat then partner? letter pairs.toList else none

/-- Joins marks to the letters before them. -/
def joinMarks (cs : List Char) : List Char :=
  (cs.foldl (fun taken c =>
    match taken with
    | a :: rest =>
      match joined? a c with
      | some b => b :: rest
      | none => c :: taken
    | [] => [c]) []).reverse

/--
The one way to write a name. Only letters that the tables above hold are folded; any other letter stays as it is,
compatible forms of other scripts among them.
-/
def foldName (name : List Char) : List Char :=
  if name.all (·.toNat < 0x80) then name else joinMarks (name.flatMap plainLetters)

end WireSketch.Text
