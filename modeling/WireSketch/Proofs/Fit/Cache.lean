import WireSketch.Proofs.Fit.Measurer
import WireSketch.Proofs.Fit.Rule
import WireSketch.Proofs.Text.Lower
import WireSketch.Proofs.Value.Reading

/-! Queries for fonts one after another: what earlier queries have found changes no answer. -/
namespace WireSketch

/-- What a run comes to, whatever state it ends in. -/
def Run.answer {ε σ α : Type} : EStateM.Result ε σ α → Except ε α
  | .ok a _ => .ok a
  | .error e _ => .error e

inductive FontQuery
  | font (size list : Value)
  | measure (text : String) (size list : Value)

inductive FontAnswer (φ : Type)
  | font (f : φ)
  | width (x : Float)

variable {φ : Type}

namespace FontLibrary

variable (l : FontLibrary φ)

def ask : FontQuery → FontM φ (FontAnswer φ)
  | .font size list => FontAnswer.font <$> FontM.font l size list
  | .measure text size list => FontAnswer.width <$> FontM.measure l text size list

/-- The answers of one measurer to queries in a row, each asked when the store is as given. -/
def answersFrom (c : FontCache φ) : List (Store × FontQuery) → List (Except Fault (FontAnswer φ))
  | [] => []
  | (s, q) :: queries =>
    match l.ask q (s, c) with
    | .ok a (_, c) => .ok a :: answersFrom c queries
    | .error f (_, c) => .error f :: answersFrom c queries

def answerAlone (s : Store) (q : FontQuery) : Except Fault (FontAnswer φ) := Run.answer (l.ask q (s, {}))

/-- The font for a size and a list of families, found without a cache. -/
def fontOf (size list : Value) : StoreM φ := do
  let size ← (FontRule.size size : Except Fault Int)
  let families ← FontRule.families list
  (l.fontFor size families : Except Fault φ)

def rule : FontQuery → StoreM (FontAnswer φ)
  | .font size list => FontAnswer.font <$> l.fontOf size list
  | .measure text size list => do
    let f ← l.fontOf size list
    return FontAnswer.width (← (l.width f text : Except Fault Float))

end FontLibrary

/-- The names of a list of families: none is empty, and none holds a comma. -/
def AreFamilies (families : List String) : Prop := ∀ family ∈ families, family ≠ "" ∧ ',' ∉ family.toList

/-- What a cache has at hand is what the rule without a cache finds. -/
structure FontCache.Sound (l : FontLibrary φ) (c : FontCache φ) : Prop where
  files : ∀ {name found}, c.files.lookup (Text.toLower name) = some found → found = l.located? name
  fonts : ∀ {families size f}, AreFamilies families →
    c.fonts.lookup (Text.toLower (",".intercalate families), size) = some f → l.fontFor size families = .ok f

section Keys

variable {l : FontLibrary φ}

theorem located?_of_toLower {name other : String} (h : Text.toLower name = Text.toLower other) :
    l.located? name = l.located? other := by
  unfold FontLibrary.located? FontRule.normalized
  rw [h]

/-- Fallbacks depend on the family up to case, and so do the files of their names. -/
theorem filterMap_located?_fallbacks {family other : String} (h : Text.toLower family = Text.toLower other) :
    (FontRule.fallbacks family).filterMap l.located? = (FontRule.fallbacks other).filterMap l.located? := by
  unfold FontRule.fallbacks
  dsimp only
  rw [h]
  split
  · rfl
  · split
    · rfl
    · split
      · rfl
      · rw [List.filterMap_cons, List.filterMap_cons, located?_of_toLower h]

/-- Families that are the same up to case have the same font. -/
theorem fontFor_of_toLower {families others : List String} (size : Int)
    (h : families.map Text.toLower = others.map Text.toLower) :
    l.fontFor size families = l.fontFor size others := by
  have hfiles : (families.flatMap FontRule.fallbacks).filterMap l.located? =
      (others.flatMap FontRule.fallbacks).filterMap l.located? := by
    obtain ⟨files, hfiles⟩ := (Function.factorsThrough_iff
      fun family => (FontRule.fallbacks family).filterMap l.located?).mp fun _ _ => filterMap_located?_fallbacks
    rw [List.filterMap_flatMap, List.filterMap_flatMap, hfiles]
    have hlower := congrArg (List.flatMap files) h
    rwa [List.flatMap_map, List.flatMap_map] at hlower
  unfold FontLibrary.fontFor FontLibrary.fontBy FontLibrary.candidates
  rw [hfiles]

end Keys

namespace FontCache.Sound

variable {l : FontLibrary φ} {c : FontCache φ}

theorem empty : Sound l {} where
  files h := by cases h
  fonts _ h := by cases h

/-- The files that were tried are no answers. -/
theorem withTried (h : c.Sound l) (tried : List String) : Sound l { c with tried } := ⟨h.files, h.fonts⟩

theorem withFile (h : c.Sound l) (name : String) :
    Sound l { c with files := (Text.toLower name, l.located? name) :: c.files } where
  files {other found} hfound := by
    rw [List.lookup_cons] at hfound
    split at hfound
    · rename_i hkey
      rw [located?_of_toLower (beq_iff_eq.mp hkey)]
      exact (Option.some.inj hfound).symm
    · exact h.files hfound
  fonts := h.fonts

/-- A font at hand answers later queries for the same families up to case, and no other. -/
theorem withFont (h : c.Sound l) {families : List String} (hf : AreFamilies families) {size : Int} {f : φ}
    (hfont : l.fontFor size families = .ok f) :
    Sound l { c with fonts := ((Text.toLower (",".intercalate families), size), f) :: c.fonts } where
  files := h.files
  fonts {others n g} ho hfound := by
    rw [List.lookup_cons] at hfound
    split at hfound
    · rename_i hkey
      obtain ⟨hrow, rfl⟩ := Prod.mk.inj (beq_iff_eq.mp hkey)
      rw [fontFor_of_toLower n (Text.toLower_of_row ho hf hrow), hfont, Option.some.inj hfound]
    · exact h.fonts ho hfound

end FontCache.Sound

namespace Text

theorem not_mem_of_mem_splitOnPPrepend {sep : Char} {part : List Char} : (s taken : List Char) →
    sep ∉ taken → part ∈ List.splitOnPPrepend (· == sep) s taken → sep ∉ part
  | [], taken, ht, hp => by
    rw [List.splitOnPPrepend, List.mem_singleton] at hp
    rwa [hp, List.mem_reverse]
  | c :: s, taken, ht, hp => by
    rw [List.splitOnPPrepend_cons_eq_if] at hp
    split at hp
    · rcases List.mem_cons.mp hp with hp | hp
      · rwa [hp, List.mem_reverse]
      · exact not_mem_of_mem_splitOnPPrepend s [] List.not_mem_nil hp
    · rename_i hc
      refine not_mem_of_mem_splitOnPPrepend s (c :: taken) ?_ hp
      rw [List.mem_cons, not_or]
      exact ⟨fun h => hc (by simp [h]), ht⟩

theorem not_mem_of_mem_splitAt {s part : String} {sep : Char} (h : part ∈ splitAt sep s) :
    sep ∉ part.toList := by
  obtain ⟨cs, hcs, rfl⟩ := List.mem_map.mp h
  rw [String.toList_ofList]
  exact not_mem_of_mem_splitOnPPrepend s.toList [] List.not_mem_nil hcs

end Text

theorem mem_of_mem_trim {text : String} {c : Char} (h : c ∈ (Text.trim text).toList) : c ∈ text.toList := by
  unfold Text.trim Text.trimList at h
  rw [String.toList_ofList, List.mem_reverse] at h
  have hback := (List.dropWhile_sublist _).mem h
  exact (List.dropWhile_sublist _).mem (List.mem_reverse.mp hback)

theorem mem_of_mem_withoutQuotes {text : String} {c : Char} (h : c ∈ (withoutQuotes text).toList) :
    c ∈ text.toList := by
  have hinner (h : c ∈ (String.ofList (text.toList.drop 1).dropLast).toList) : c ∈ text.toList := by
    rw [String.toList_ofList] at h
    exact List.mem_of_mem_drop ((List.dropLast_sublist _).mem h)
  unfold withoutQuotes at h
  dsimp only at h
  split at h
  · exact hinner h
  · exact hinner h
  · exact h

namespace FontM

theorem areFamilies_splitFamilies (text : String) : AreFamilies (splitFamilies text) := by
  intro family hfamily
  obtain ⟨hmem, hne⟩ := List.mem_filter.mp hfamily
  obtain ⟨part, hpart, rfl⟩ := List.mem_map.mp hmem
  refine ⟨by simpa using hne, fun hcomma => ?_⟩
  exact Text.not_mem_of_mem_splitAt hpart (mem_of_mem_trim (mem_of_mem_withoutQuotes hcomma))

theorem areFamilies_families {list : Value} {s t : Store} {names : List String}
    (h : families list s = .ok names t) : AreFamilies names := by
  unfold families at h
  obtain ⟨counts, u, -, hrest⟩ := Run.of_bind_ok h
  cases counts with
  | false =>
    cases hrest
    exact nofun
  | true =>
    cases list
    case str text =>
      cases hrest
      exact areFamilies_splitFamilies text
    all_goals cases hrest

variable {l : FontLibrary φ} {α β : Type} {x : FontM φ α} {y : StoreM α}

/-- Whatever a sound cache has at hand, `x` runs as `y` does without a cache, and leaves a sound cache. -/
def Gives (l : FontLibrary φ) (x : FontM φ α) (y : StoreM α) : Prop :=
  ∀ (s : Store) (c : FontCache φ), c.Sound l →
    ∃ d, FontCache.Sound l d ∧ x (s, c) = FitM.ofStore y (s, d)

theorem gives_ofStore (y : StoreM α) : Gives l (FitM.ofStore y) y := fun _ c hc => ⟨c, hc, rfl⟩

theorem gives_pure (a : α) : Gives l (pure a) (pure a) := gives_ofStore (pure a)

theorem gives_ofExcept (r : Except Fault α) : Gives l (liftM r) (liftM r) := gives_ofStore (liftM r)

theorem Gives.bind {f : α → FontM φ β} {g : α → StoreM β} (hx : Gives l x y)
    (hf : ∀ a, (∃ s t, y s = .ok a t) → Gives l (f a) (g a)) : Gives l (x >>= f) (y >>= g) := by
  intro s c hc
  obtain ⟨d, hd, hrun⟩ := hx s c hc
  cases hy : y s with
  | ok a t =>
    rw [FitM.ofStore_ok hy] at hrun
    obtain ⟨e, he, hrest⟩ := hf a ⟨s, t, hy⟩ t d hd
    refine ⟨e, he, ?_⟩
    rw [Run.bind_ok hrun, hrest]
    cases hg : g a t with
    | ok b u => rw [FitM.ofStore_ok hg, FitM.ofStore_ok ((Run.bind_ok hy).trans hg)]
    | error f u => rw [FitM.ofStore_error hg, FitM.ofStore_error ((Run.bind_ok hy).trans hg)]
  | error f t =>
    rw [FitM.ofStore_error hy] at hrun
    refine ⟨d, hd, ?_⟩
    rw [Run.bind_error hrun, FitM.ofStore_error (Run.bind_error hy)]

/-- The rest of a program after a value that needs no store. -/
theorem Gives.next {f : α → FontM φ β} {y : StoreM β} {a : α} (hx : Gives l x (pure a))
    (hf : Gives l (f a) y) : Gives l (x >>= f) y := by
  intro s c hc
  obtain ⟨d, hd, hrun⟩ := hx s c hc
  rw [Run.bind_ok hrun]
  exact hf s d hd

theorem Gives.map (hx : Gives l x y) (f : α → β) : Gives l (f <$> x) (f <$> y) := by
  rw [map_eq_pure_bind, map_eq_pure_bind]
  exact hx.bind fun a _ => gives_pure (f a)

theorem gives_modifyOwn {f : FontCache φ → FontCache φ} (hf : ∀ c : FontCache φ, c.Sound l → (f c).Sound l) :
    Gives l (FitM.modifyOwn f) (pure ()) := fun _ c hc => ⟨f c, hf c hc, rfl⟩

/-- What is at hand may be taken when it is what would be found otherwise. -/
theorem gives_atHand (look : FontCache φ → Option α) {p : FontCache φ → FontM φ α}
    (hit : ∀ c found, look c = some found → p c = pure found) (miss : ∀ c, look c = none → p c = x)
    (hlook : ∀ c found, FontCache.Sound l c → look c = some found → y = pure found)
    (hx : Gives l x y) : Gives l (FitM.getOwn >>= p) y := by
  intro s c hc
  have hrun : (FitM.getOwn >>= p) (s, c) = p c (s, c) := rfl
  rw [hrun]
  cases hat : look c with
  | some found =>
    rw [hit c found hat, hlook c found hc hat]
    exact ⟨c, hc, rfl⟩
  | none =>
    rw [miss c hat]
    exact hx s c hc

theorem gives_locate (l : FontLibrary φ) (name : String) :
    Gives l (locate l name) (pure (l.located? name)) := by
  refine gives_atHand (fun c => c.files.lookup (Text.toLower name))
    (x := do
      FitM.modifyOwn fun c => { c with files := (Text.toLower name, l.located? name) :: c.files }
      return l.located? name) (fun c found h => ?_) (fun c h => ?_)
    (fun c found hc h => congrArg pure (hc.files h).symm) ?_
  · simp only [h]
  · simp only [h, FontLibrary.locate?_toLower]
  · exact (gives_modifyOwn fun c hc => hc.withFile name).next (gives_pure _)

theorem gives_locateAll (l : FontLibrary φ) : (names : List String) →
    Gives l (names.mapM (locate l)) (pure (names.map l.located?))
  | [] => gives_pure []
  | name :: names => by
    rw [List.mapM_cons]
    exact (gives_locate l name).next ((gives_locateAll l names).next (gives_pure _))

/-- The first of the files that loads is the font. -/
theorem gives_loadFirst (l : FontLibrary φ) (size : Int) : (files : List String) →
    Gives l (loadFirst l size files) (liftM ((files.findSome? fun file => l.load file size).getD l.default))
  | [] => gives_ofExcept l.default
  | file :: files => by
    unfold loadFirst
    refine (gives_modifyOwn fun c hc => hc.withTried (c.tried ++ [file])).next ?_
    cases hload : l.load file size with
    | some font =>
      rw [List.findSome?_cons_of_isSome (by rw [hload]; rfl), hload]
      exact gives_ofExcept font
    | none =>
      rw [List.findSome?_cons_of_isNone (by rw [hload]; rfl)]
      exact gives_loadFirst l size files

/-- The font of families is the one that the rule names, whether it is at hand or found now. -/
theorem gives_fontFor (l : FontLibrary φ) (size : Int) {families : List String} (hf : AreFamilies families) :
    Gives l (do
      let found ← (families.flatMap namesOf).mapM (locate l)
      let f ← loadFirst l size (found.filterMap id ++ ["DejaVuSans.ttf"])
      FitM.modifyOwn fun c =>
        { c with fonts := ((Text.toLower (",".intercalate families), size), f) :: c.fonts }
      return f) (liftM (l.fontFor size families)) := by
  have hcandidates : ((families.flatMap namesOf).map l.located?).filterMap id ++ ["DejaVuSans.ttf"] =
      FontLibrary.candidates l.located? families := by
    unfold FontLibrary.candidates
    rw [List.filterMap_map, Function.id_comp, funext namesOf_eq]
  refine (gives_locateAll l _).next ?_
  rw [hcandidates, ← bind_pure (liftM (l.fontFor size families))]
  refine (gives_loadFirst l size _).bind fun f ⟨s, t, hrun⟩ => ?_
  have hfont : l.fontFor size families = .ok f := (StoreM.of_ofExcept_ok hrun).1
  exact (gives_modifyOwn fun c hc => hc.withFont hf hfont).next (gives_pure _)

theorem gives_font (l : FontLibrary φ) (size list : Value) :
    Gives l (font l size list) (l.fontOf size list) := by
  unfold font FontLibrary.fontOf
  rw [fontSize_eq, families_eq]
  refine (gives_modifyOwn fun c hc => hc.withTried []).next ?_
  refine (gives_ofExcept (FontRule.size size)).bind fun n _ => ?_
  refine (gives_ofStore (FontRule.families list)).bind fun names hnames => ?_
  obtain ⟨s, t, hrun⟩ := hnames
  have hfamilies := areFamilies_families ((families_eq list).symm ▸ hrun)
  refine gives_atHand (fun c => c.fonts.lookup (Text.toLower (",".intercalate names), n))
    (fun c found h => ?_) (fun c h => ?_) (fun c found hc h => ?_) (gives_fontFor l n hfamilies)
  · simp only [h]
  · simp only [h]
  · rw [hc.fonts hfamilies h]
    rfl

theorem gives_ask (l : FontLibrary φ) : (q : FontQuery) → Gives l (l.ask q) (l.rule q)
  | .font size list => (gives_font l size list).map FontAnswer.font
  | .measure text size list => by
    unfold FontLibrary.ask FontLibrary.rule measure
    dsimp only
    rw [map_eq_pure_bind, bind_assoc]
    exact (gives_font l size list).bind fun f _ =>
      (gives_ofExcept (l.width f text)).bind fun x _ => gives_pure _

end FontM

namespace FontLibrary

variable {l : FontLibrary φ}

/-- A query is answered by the rule, whatever a sound cache has at hand. -/
theorem answer_ask {c : FontCache φ} (hc : c.Sound l) (s : Store) (q : FontQuery) :
    Run.answer (l.ask q (s, c)) = Run.answer (l.rule q s) := by
  obtain ⟨d, -, hrun⟩ := FontM.gives_ask l q s c hc
  rw [hrun]
  cases hrule : l.rule q s with
  | ok a t => rw [FitM.ofStore_ok hrule]; rfl
  | error f t => rw [FitM.ofStore_error hrule]; rfl

theorem answersFrom_eq_rule : (queries : List (Store × FontQuery)) → {c : FontCache φ} → c.Sound l →
    l.answersFrom c queries = queries.map fun (s, q) => Run.answer (l.rule q s)
  | [], _, _ => rfl
  | (s, q) :: queries, c, hc => by
    obtain ⟨d, hd, hrun⟩ := FontM.gives_ask l q s c hc
    have hrest := answersFrom_eq_rule queries hd
    unfold answersFrom
    rw [List.map_cons, hrun]
    cases hrule : l.rule q s with
    | ok a t =>
      rw [FitM.ofStore_ok hrule, ← hrest]
      dsimp only
      rw [hrule]
      rfl
    | error f t =>
      rw [FitM.ofStore_error hrule, ← hrest]
      dsimp only
      rw [hrule]
      rfl

/-- Each of any number of queries to one measurer, also after some that failed, is answered as a new
measurer answers it alone, which is by the rule without a cache. -/
theorem answers_eq_alone_eq_rule (l : FontLibrary φ) (queries : List (Store × FontQuery)) :
    l.answersFrom {} queries = queries.map (fun (s, q) => l.answerAlone s q) ∧
      ∀ s q, l.answerAlone s q = Run.answer (l.rule q s) := by
  have halone (s : Store) (q : FontQuery) : l.answerAlone s q = Run.answer (l.rule q s) :=
    answer_ask FontCache.Sound.empty s q
  refine ⟨?_, halone⟩
  rw [answersFrom_eq_rule queries FontCache.Sound.empty]
  simp only [halone]

/-- Fonts by file and size. One of the files cannot be read. -/
def stubLibrary : FontLibrary (Option String × Int) where
  directories := [["/f/Arial Bold.ttf", "/f/Arial.ttf"], ["/g/Times.ttf"]]
  load file size := if file = "/f/Arial.ttf" then none else some (.ok (some file, size))
  default := .ok (none, 10)
  width _ text := .ok (if text = "ab" then 12 else 6)

theorem fontOf_of_candidates {n : Int} {list : String} {files : List String} {f : φ}
    (hfiles : candidates l.located? (FontRule.namesIn list) = files)
    (hload : files.findSome? (fun file => l.load file (max 1 n)) = some (.ok f)) :
    l.fontOf (.int n) (.str list) = pure f := by
  have hfont : l.fontFor (max 1 n) (FontRule.namesIn list) = .ok f := by
    unfold fontFor fontBy
    rw [hfiles, hload]
    rfl
  have hsize : (liftM (FontRule.size (.int n)) : StoreM Int) = pure (max 1 n) := rfl
  have hfamilies : FontRule.families (.str list) = pure (FontRule.namesIn list) := rfl
  unfold fontOf
  rw [hsize, pure_bind, hfamilies, pure_bind, hfont]
  rfl

/-- Four queries in a row: one that falls back on another file, one that fails, the first again in other letters,
and one for a width. -/
theorem answers_eq_alone_eq_rule_stub : stubLibrary.answersFrom {} [
      (.empty, .font (.int 12) (.str "Arial, Nope")), (.empty, .font (.str "x") (.str "Arial")),
      (.empty, .font (.int 12) (.str "ARIAL,nope")), (.empty, .measure "ab" (.int 0) (.str "'Arial Bold'"))] =
    [.ok (.font (some "DejaVuSans.ttf", 12)), .error (.noRound "str"),
      .ok (.font (some "DejaVuSans.ttf", 12)), .ok (.width 12)] := by
  obtain ⟨hanswers, halone⟩ := answers_eq_alone_eq_rule stubLibrary [
    (.empty, .font (.int 12) (.str "Arial, Nope")), (.empty, .font (.str "x") (.str "Arial")),
    (.empty, .font (.int 12) (.str "ARIAL,nope")), (.empty, .measure "ab" (.int 0) (.str "'Arial Bold'"))]
  rw [hanswers]
  simp only [List.map_cons, List.map_nil, halone]
  obtain ⟨hfirst, hagain, hbold⟩ :
      candidates stubLibrary.located? (FontRule.namesIn "Arial, Nope") = ["/f/Arial.ttf", "DejaVuSans.ttf"] ∧
      candidates stubLibrary.located? (FontRule.namesIn "ARIAL,nope") = ["/f/Arial.ttf", "DejaVuSans.ttf"] ∧
      candidates stubLibrary.located? (FontRule.namesIn "'Arial Bold'") =
        ["/f/Arial Bold.ttf", "DejaVuSans.ttf"] := by decide +kernel
  unfold rule
  dsimp only
  rw [fontOf_of_candidates hfirst rfl, fontOf_of_candidates hagain rfl, fontOf_of_candidates hbold rfl]
  rfl

/-- A family of signs alone asks for no file, though each file starts with nothing. -/
theorem font_of_signs :
    let l : FontLibrary (Option String × Int) := { stubLibrary with directories := [["a.ttf"]] }
    l.answersFrom {} [(.empty, .font (.int 10) (.str "???"))] = [.ok (.font (some "DejaVuSans.ttf", 10))] ∧
      l.fontBy (fun name => l.firstNamed? (FontRule.normalized name)) 10 (FontRule.namesIn "???") =
        .ok (some "a.ttf", 10) := by
  intro l
  obtain ⟨hnone, hstart⟩ : candidates l.located? (FontRule.namesIn "???") = ["DejaVuSans.ttf"] ∧
      candidates (fun name => l.firstNamed? (FontRule.normalized name)) (FontRule.namesIn "???") =
        ["a.ttf", "DejaVuSans.ttf"] := by decide +kernel
  constructor
  · rw [answersFrom_eq_rule _ FontCache.Sound.empty]
    simp only [List.map_cons, List.map_nil]
    unfold rule
    dsimp only
    rw [fontOf_of_candidates hnone rfl]
    rfl
  · unfold fontBy
    rw [hstart]
    rfl

end FontLibrary
end WireSketch
