import Mathlib.Data.List.DropRight
import Mathlib.Data.List.Find
import WireSketch.Fit.Font

/-!
The font of a query by itself: the size and the names that it asks for, which file a name stands for, and which of
the files is taken.
-/
namespace WireSketch

variable {φ : Type}

namespace FontRule

/-- The nearest integer, ties to even, but one at least. -/
def size : Value → Except Fault Int
  | .bool _ => .ok 1
  | .int n => .ok (max 1 n)
  | .float x =>
    if x.isNaN then .error .nanToInteger
    else if Binary64.isFinite x then .ok (max 1 (Binary64.roundEven x))
    else .error .infinityToInteger
  | v => .error (.noRound v.typeName)

/-- A text without the quotes around it, if they are of one kind. -/
def unquoted (text : List Char) : List Char :=
  if text.head? ∈ [some '"', some '\''] ∧ text.getLast? = text.head? then text.tail.dropLast else text

/-- The names between commas, without white space and quotes around them. Empty ones do not count. -/
def namesIn (list : String) : List String :=
  ((list.toList.splitOn ',').map fun part =>
    String.ofList (unquoted ((part.dropWhile Text.isBlank).rdropWhile Text.isBlank))).filter (· ≠ "")

/-- The families of a query. A value that counts as false names none, and only texts can be split. -/
def families : Value → StoreM (List String)
  | .str list => return namesIn list
  | v => do
    if ← v.truth then
      match v with
      | .bytes _ => throw (.bytesContent "str")
      | v => throw (.noAttribute v.typeName "split")
    else return []

/-- The names to look for: those that a generic family falls back on, or its own. -/
def fallbacks (family : String) : List String :=
  let name := Text.toLower family
  if name = "sans-serif" then ["Helvetica", "Arial", "Liberation Sans", "DejaVu Sans"]
  else if name = "serif" then ["Times New Roman", "Times", "Liberation Serif", "DejaVu Serif"]
  else if name = "monospace" then ["Courier New", "Courier", "Liberation Mono", "DejaVu Sans Mono"]
  else [family]

def letters : List Char := "abcdefghijklmnopqrstuvwxyz0123456789".toList

def normalized (name : String) : List Char := (Text.toLower name).toList.filter (· ∈ letters)

def stem (file : String) : List Char := normalized (Path.ofString file).stem

end FontRule

namespace FontLibrary

variable (l : FontLibrary φ)

/--
The first font file that goes by a normalized name, alone or with an ending that font makers add, or else the
first that starts with it.
-/
def firstNamed? (plain : List Char) : Option String :=
  let files := l.directories.flatten.filter fun file => ".ttf".toList <:+ file.toList
  let ofName := files.find? fun file =>
    FontRule.stem file ∈ [plain, plain ++ "mt".toList, plain ++ "psmt".toList]
  let startingWith := files.find? fun file => plain <+: FontRule.stem file
  (ofName.or startingWith).map fun file => (Path.ofString file).toString

/-- The file of a name. A name without letters and digits has none, though every file starts with nothing. -/
def located? (name : String) : Option String :=
  if FontRule.normalized name = [] then none else l.firstNamed? (FontRule.normalized name)

def candidates (locate : String → Option String) (families : List String) : List String :=
  (families.flatMap FontRule.fallbacks).filterMap locate ++ ["DejaVuSans.ttf"]

/-- The first candidate that loads, or the default font. -/
def fontBy (locate : String → Option String) (size : Int) (families : List String) : Except Fault φ :=
  ((candidates locate families).findSome? fun file => l.load file size).getD l.default

def fontFor (size : Int) (families : List String) : Except Fault φ := l.fontBy l.located? size families

end FontLibrary

section Names

theorem mem_letters (c : Char) :
    c ∈ FontRule.letters ↔ (('a' ≤ c && c ≤ 'z') || c.isDigit) = true := by
  have hletters : FontRule.letters.map Char.toNat = List.range' 97 26 ++ List.range' 48 10 := by decide
  have hcode : c ∈ FontRule.letters ↔ c.toNat ∈ FontRule.letters.map Char.toNat :=
    (List.mem_map_of_injective fun _ _ => Char.toNat_inj.mp).symm
  have hlow : 'a' ≤ c ↔ 97 ≤ c.toNat := Iff.rfl
  have hhigh : c ≤ 'z' ↔ c.toNat ≤ 122 := Iff.rfl
  have hdigit : c.isDigit = true ↔ 48 ≤ c.toNat ∧ c.toNat ≤ 57 := by
    rw [Char.isDigit, Bool.and_eq_true, decide_eq_true_iff, decide_eq_true_iff]
    exact Iff.rfl
  rw [hcode, hletters, List.mem_append, List.mem_range'_1, List.mem_range'_1, Bool.or_eq_true, Bool.and_eq_true,
    decide_eq_true_iff, decide_eq_true_iff, hlow, hhigh, hdigit]
  omega

theorem toList_plainName (s : String) : (plainName (Text.toLower s)).toList = FontRule.normalized s := by
  unfold plainName FontRule.normalized
  rw [String.toList_ofList]
  refine List.filter_congr fun c _ => ?_
  rw [Bool.eq_iff_iff, decide_eq_true_iff, mem_letters]

theorem namesOf_eq (family : String) : namesOf family = FontRule.fallbacks family := by
  unfold namesOf FontRule.fallbacks genericFamilies
  dsimp only
  by_cases hsans : Text.toLower family = "sans-serif"
  · rw [hsans]
    rfl
  · by_cases hserif : Text.toLower family = "serif"
    · rw [hserif]
      rfl
    · by_cases hmono : Text.toLower family = "monospace"
      · rw [hmono]
        rfl
      · rw [if_neg hsans, if_neg hserif, if_neg hmono]
        simp only [List.lookup_cons, beq_eq_false_iff_ne.mpr hsans, beq_eq_false_iff_ne.mpr hserif,
          beq_eq_false_iff_ne.mpr hmono, List.lookup_nil, Option.getD_none]

theorem toList_withoutQuotes (text : String) :
    (withoutQuotes text).toList = FontRule.unquoted text.toList := by
  unfold withoutQuotes FontRule.unquoted
  dsimp only
  split
  · rename_i hhead hlast
    rw [if_pos ⟨by simp [hhead], hlast.trans hhead.symm⟩, String.toList_ofList, List.drop_one]
  · rename_i hhead hlast
    rw [if_pos ⟨by simp [hhead], hlast.trans hhead.symm⟩, String.toList_ofList, List.drop_one]
  · rename_i hdouble hsingle
    refine (if_neg ?_).symm
    rintro ⟨hquote, hlast⟩
    rcases List.mem_pair.mp hquote with hhead | hhead
    · exact hdouble hhead (hlast.trans hhead)
    · exact hsingle hhead (hlast.trans hhead)

theorem splitFamilies_eq (list : String) : FontM.splitFamilies list = FontRule.namesIn list := by
  unfold FontM.splitFamilies FontRule.namesIn Text.splitAt
  rw [List.map_map]
  refine congrArg _ (List.map_congr_left fun part _ => ?_)
  rw [Function.comp_apply, String.ext_iff, toList_withoutQuotes, String.toList_ofList]
  unfold Text.trim
  rw [String.toList_ofList, String.toList_ofList]
  rfl

theorem families_eq (list : Value) : FontM.families list = FontRule.families list := by
  have swap (x : StoreM (List String)) (b : Bool) :
      (if !b then return [] else x) = if b then x else return [] := by
    cases b <;> rfl
  cases list with
  | str text =>
    have htruth : (Value.str text).truth = pure (text != "") := rfl
    unfold FontM.families FontRule.families
    rw [htruth, pure_bind, swap]
    dsimp only
    rw [splitFamilies_eq]
    by_cases hempty : text = ""
    · subst hempty
      rfl
    · rw [if_pos (by simpa using hempty)]
  | _ => exact congrArg _ (funext fun b => swap _ b)

theorem fontSize_eq (size : Value) : FontM.fontSize size = FontRule.size size := by
  cases size with
  | bool b => cases b <;> rfl
  | float x =>
    unfold FontM.fontSize FontRule.size Value.rounded
    dsimp only
    by_cases hnan : x.isNaN
    · rw [if_pos hnan, if_pos hnan]
      rfl
    · rw [if_neg hnan, if_neg hnan]
      cases Binary64.isFinite x with
      | true => rfl
      | false => rfl
  | _ => rfl

end Names

section Locate

variable {name file : String} {files : List String}

theorem fileScore?_eq : fileScore? name file =
    if FontRule.stem file ∈ [name.toList, name.toList ++ "mt".toList, name.toList ++ "psmt".toList] then some 0
    else if name.toList <+: FontRule.stem file then some 1
    else none := by
  have hstem : (plainName (Text.toLower (Path.ofString file).stem)).toList = FontRule.stem file :=
    toList_plainName _
  have hown (own other : String) : (own == other) = decide (own.toList = other.toList) := by
    rw [Bool.eq_iff_iff, beq_iff_eq, decide_eq_true_iff, String.toList_inj]
  have hstart (own : String) : own.startsWith name = decide (name.toList <+: own.toList) := by
    rw [Bool.eq_iff_iff, String.startsWith_string_iff, decide_eq_true_iff]
  unfold fileScore?
  simp only [hown, hstart, hstem, String.toList_append, List.mem_cons, List.not_mem_nil, or_false, Bool.or_eq_true,
    decide_eq_true_eq, or_assoc]

/-- Score zero says that the file goes by the name, alone or with an ending. -/
theorem fileScore?_eq_zero_iff : fileScore? name file = some 0 ↔
    FontRule.stem file ∈ [name.toList, name.toList ++ "mt".toList, name.toList ++ "psmt".toList] := by
  rw [fileScore?_eq]
  split
  · rename_i hown
    exact iff_of_true rfl hown
  · rename_i hown
    refine iff_of_false ?_ hown
    split <;> decide

theorem fileScore?_of_ne_zero (h : fileScore? name file ≠ some 0) :
    fileScore? name file = if name.toList <+: FontRule.stem file then some 1 else none := by
  rw [fileScore?_eq, if_neg (mt fileScore?_eq_zero_iff.mpr h)]

namespace FontLibrary

def first? (name : String) (score : Nat) (files : List String) : Option String :=
  files.find? fun file => decide (fileScore? name file = some score)

theorem first?_cons_pos {score : Nat} (h : fileScore? name file = some score) :
    first? name score (file :: files) = some file :=
  List.find?_cons_of_pos (decide_eq_true h)

theorem first?_cons_neg {score : Nat} (h : fileScore? name file ≠ some score) :
    first? name score (file :: files) = first? name score files :=
  List.find?_cons_of_neg (by simpa using h)

/-- No later file takes the place of one of the least score. -/
theorem foldl_better_zero (found : String) :
    (files : List String) → files.foldl (better name) (some (0, found)) = some (0, found)
  | [] => rfl
  | file :: files => by
    have hstep : better name (some (0, found)) file = some (0, found) := by
      unfold better
      cases fileScore? name file <;> rfl
    rw [List.foldl_cons, hstep]
    exact foldl_better_zero found files

theorem foldl_better_one (found : String) :
    (files : List String) → files.foldl (better name) (some (1, found)) =
      some (((first? name 0 files).map fun file => (0, file)).getD (1, found))
  | [] => rfl
  | file :: files => by
    by_cases hzero : fileScore? name file = some 0
    · have hstep : better name (some (1, found)) file = some (0, file) := by
        unfold better
        rw [hzero]
        rfl
      rw [List.foldl_cons, hstep, foldl_better_zero, first?_cons_pos hzero]
      rfl
    · have hstep : better name (some (1, found)) file = some (1, found) := by
        unfold better
        rw [fileScore?_of_ne_zero hzero]
        by_cases hstart : name.toList <+: FontRule.stem file
        · rw [if_pos hstart]
          rfl
        · rw [if_neg hstart]
      rw [List.foldl_cons, hstep, foldl_better_one found files, first?_cons_neg hzero]

/-- The best match is the first file of score zero, or else the first of score one. -/
theorem foldl_better_none : (files : List String) → files.foldl (better name) none =
    ((first? name 0 files).map fun file => (0, file)).or ((first? name 1 files).map fun file => (1, file))
  | [] => rfl
  | file :: files => by
    by_cases hzero : fileScore? name file = some 0
    · have hstep : better name none file = some (0, file) := by
        unfold better
        rw [hzero]
      rw [List.foldl_cons, hstep, foldl_better_zero, first?_cons_pos hzero]
      rfl
    · have hscore := fileScore?_of_ne_zero hzero
      by_cases hstart : name.toList <+: FontRule.stem file
      · rw [if_pos hstart] at hscore
        have hstep : better name none file = some (1, file) := by
          unfold better
          rw [hscore]
        rw [List.foldl_cons, hstep, foldl_better_one, first?_cons_neg hzero, first?_cons_pos hscore]
        cases first? name 0 files <;> rfl
      · rw [if_neg hstart] at hscore
        have hstep : better name none file = none := by
          unfold better
          rw [hscore]
        rw [List.foldl_cons, hstep, foldl_better_none files, first?_cons_neg hzero,
          first?_cons_neg (by rw [hscore]; exact nofun)]

theorem first?_zero : first? name 0 files = files.find? fun file =>
    FontRule.stem file ∈ [name.toList, name.toList ++ "mt".toList, name.toList ++ "psmt".toList] :=
  List.find?_congr fun _ _ => decide_eq_decide.mpr fileScore?_eq_zero_iff

/-- When no file has score zero, score one says that the file's name starts with the name. -/
theorem first?_one (h : first? name 0 files = none) :
    first? name 1 files = files.find? fun file => name.toList <+: FontRule.stem file := by
  refine List.find?_congr fun file hfile => ?_
  have hzero : fileScore? name file ≠ some 0 := by simpa using List.find?_eq_none.mp h file hfile
  rw [fileScore?_of_ne_zero hzero]
  by_cases hstart : name.toList <+: FontRule.stem file
  · rw [if_pos hstart]
    simp [hstart]
  · rw [if_neg hstart]
    simp [hstart]

theorem files_eq (l : FontLibrary φ) :
    l.files = l.directories.flatten.filter fun file => ".ttf".toList <:+ file.toList := by
  refine List.filter_congr fun file _ => ?_
  have hslice : file.endsWith ".ttf" = file.toSlice.endsWith ".ttf" := rfl
  rw [Bool.eq_iff_iff, decide_eq_true_iff, hslice, String.Slice.endsWith_string_iff, String.copy_toSlice]

/-- The loop over the files finds the file that the rule names. -/
theorem locate?_toLower (l : FontLibrary φ) (name : String) :
    l.locate? (Text.toLower name) = l.located? name := by
  have hplain : (plainName (Text.toLower name)).isEmpty = decide (FontRule.normalized name = []) := by
    rw [Bool.eq_iff_iff, decide_eq_true_iff, String.isEmpty_iff, ← toList_plainName, String.toList_eq_nil_iff]
  unfold locate? located? firstNamed?
  rw [← files_eq, ← toList_plainName]
  simp only [hplain, decide_eq_true_eq, toList_plainName]
  by_cases hempty : FontRule.normalized name = []
  · rw [if_pos hempty, if_pos hempty]
  · rw [if_neg hempty, if_neg hempty, foldl_better_none, ← toList_plainName, ← first?_zero]
    cases hfirst : first? (plainName (Text.toLower name)) 0 l.files with
    | some file => simp
    | none =>
      rw [← first?_one hfirst]
      cases first? (plainName (Text.toLower name)) 1 l.files <;> simp

end FontLibrary
end Locate
end WireSketch
