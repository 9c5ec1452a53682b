import WireSketch.Command.Run
import WireSketch.Proofs.Command.Host
import WireSketch.Proofs.Document.Written

/-! How a request for a document or a picture comes out, once its host keeps to some laws. -/
namespace WireSketch.Command

variable {σ α β : Type}

/-- Result, warnings and state after a program of a command. -/
def outcome (x : CommandM (StateM σ) α) (w : String) (s : σ) : (Except Problem α × String) × σ :=
  (x.run.run w).run s

section Outcome

variable {x : CommandM (StateM σ) α} {f : α → CommandM (StateM σ) β} {w v : String} {s u : σ}

theorem outcome_host (y : StateM σ α) (w : String) (s : σ) :
    outcome (liftM y : CommandM (StateM σ) α) w s = ((.ok (y.run s).1, w), (y.run s).2) := rfl

theorem outcome_bind (x : CommandM (StateM σ) α) (f : α → CommandM (StateM σ) β) (w : String) (s : σ) :
    outcome (x >>= f) w s = match outcome x w s with
      | ((.ok a, v), u) => outcome (f a) v u
      | ((.error p, v), u) => ((.error p, v), u) := by
  have hbind : outcome (x >>= f) w s =
      ((ExceptT.bindCont (fun a => f a) (outcome x w s).1.1).run (outcome x w s).1.2).run (outcome x w s).2 := rfl
  rw [hbind]
  obtain ⟨⟨r, v⟩, u⟩ := outcome x w s
  cases r <;> rfl

theorem outcome_bind_ok {a : α} (h : outcome x w s = ((.ok a, v), u)) :
    outcome (x >>= f) w s = outcome (f a) v u := by
  rw [outcome_bind, h]

theorem outcome_bind_error {p : Problem} (h : outcome x w s = ((.error p, v), u)) :
    outcome (x >>= f) w s = ((.error p, v), u) := by
  rw [outcome_bind, h]

end Outcome

variable {host : Host (StateM σ)} {files : σ → Path → Option ByteArray}

/-- The program changes no file, gives no warning, and does not fail in writing. -/
def Quiet (files : σ → Path → Option ByteArray) (x : CommandM (StateM σ) α) : Prop :=
  ∀ w s, ∃ r u, outcome x w s = ((r, w), u) ∧ files u = files s ∧ ∀ p, r = .error p → p.report.status ≠ 4

section Quiet

theorem quiet_pure (a : α) : Quiet files (pure a : CommandM (StateM σ) α) :=
  fun _ s => ⟨.ok a, s, rfl, rfl, fun q hq => by cases hq⟩

theorem quiet_throw {p : Problem} (hp : p.report.status ≠ 4) :
    Quiet files (throw p : CommandM (StateM σ) α) := fun _ s => ⟨.error p, s, rfl, rfl, fun q hq => by
  cases hq
  exact hp⟩

theorem quiet_throw_bind {p : Problem} {f : α → CommandM (StateM σ) β} (hp : p.report.status ≠ 4) :
    Quiet files (throw p >>= f : CommandM (StateM σ) β) := fun _ s => ⟨.error p, s, rfl, rfl, fun q hq => by
  cases hq
  exact hp⟩

theorem quiet_ofExcept {e : Except Problem α} (he : ∀ p, e = .error p → p.report.status ≠ 4) :
    Quiet files (liftM e : CommandM (StateM σ) α) := fun _ s => ⟨e, s, rfl, rfl, he⟩

theorem quiet_host {y : StateM σ α} (hy : ∀ s, files (y.run s).2 = files s) :
    Quiet files (liftM y : CommandM (StateM σ) α) :=
  fun _ s => ⟨.ok (y.run s).1, _, rfl, hy s, fun q hq => by cases hq⟩

theorem Quiet.bind {x : CommandM (StateM σ) α} {f : α → CommandM (StateM σ) β} (hx : Quiet files x)
    (hf : ∀ a, Quiet files (f a)) : Quiet files (x >>= f) := by
  intro w s
  obtain ⟨r, u, hr, hu, hp⟩ := hx w s
  cases r with
  | ok a =>
    obtain ⟨r, t, ht, hfiles, hq⟩ := hf a w u
    exact ⟨r, t, (outcome_bind_ok hr).trans ht, hfiles.trans hu, hq⟩
  | error p =>
    refine ⟨.error p, u, outcome_bind_error hr, hu, fun q hq => ?_⟩
    cases hq
    exact hp p rfl

theorem quiet_decoded (name : String) (given : Option String) (bytes : ByteArray) :
    Quiet files (liftM (decoded name given bytes) : CommandM (StateM σ) String) := by
  refine quiet_ofExcept fun p hp => ?_
  unfold decoded at hp
  split at hp
  · cases hp
  · cases hp
    nofun

theorem quiet_readFile (hhost : host.Orderly files) (given : String) :
    Quiet files (Command.readFile host given) := by
  unfold Command.readFile
  split
  · exact quiet_throw_bind nofun
  · refine (quiet_host (hhost.readFile _)).bind fun read => ?_
    cases read with
    | ok bytes => exact (quiet_decoded _ _ _).bind fun _ => quiet_pure _
    | error f =>
      dsimp only
      split
      · exact quiet_throw nofun
      · exact quiet_throw nofun

theorem quiet_readInput (hhost : host.Orderly files) : Quiet files (Command.readInput host) := by
  unfold Command.readInput
  refine (quiet_host hhost.isTerminal).bind fun terminal => ?_
  split
  · exact quiet_throw_bind nofun
  · refine (quiet_host hhost.readInput).bind fun bytes => (quiet_decoded _ _ _).bind fun text => ?_
    split
    · exact quiet_throw_bind nofun
    · exact quiet_pure _

theorem quiet_readSource (hhost : host.Orderly files) (job : Job) :
    Quiet files (readSource host job) := by
  unfold readSource
  split
  · exact quiet_throw nofun
  · exact quiet_pure _
  · exact quiet_pure _
  · exact (quiet_readFile hhost _).bind fun _ => quiet_pure _
  · exact (quiet_readInput hhost).bind fun _ => quiet_pure _

end Quiet

/-- The source of a request and the file for its result, once its input and its options are accepted. -/
inductive Accepted (host : Host (StateM σ)) (s : σ) : Request → Source → Option Path → σ → Prop
  | compile {job : Job} {checkFit : Bool} {source : Source} {path : Option Path} {u : σ}
      (hsource : outcome (readSource host job) "" s = ((.ok (some source), ""), u))
      (hpath : outputPath job source.path ".svg" = .ok path) :
      Accepted host s (.compile job checkFit) source path u
  | render {job : Job} {scale : Float} {source : Source} {path : Option Path} {u : σ} (hscale : ¬ scale ≤ 0)
      (hsource : outcome (readSource host job) "" s = ((.ok (some source), ""), u))
      (hpath : outputPath job source.path ".png" = .ok path) :
      Accepted host s (.render job (some scale)) source path u

/-- Is the source run as a script? One that is a document already is rendered as it stands. -/
def Request.runsScript (source : String) : Request → Bool
  | compile .. => true
  | render .. => !isSvg source
  | _ => false

inductive Product
  | document (text : String)
  | picture (bytes : ByteArray)

namespace Product

def content : Product → ByteArray
  | document text => text.toUTF8
  | picture bytes => bytes

def shown (host : Host (StateM σ)) : Product → Except Problem ByteArray
  | document text => printed host text
  | picture bytes => .ok bytes

end Product

/-- What a request makes of a source: what `generate` returns, or the picture of that or of a source that is
a document already. -/
inductive Made (host : Host (StateM σ)) (source : String) : Request → Product → Prop
  | compiled {job : Job} {checkFit : Bool} {text : String} (h : generate defaultBudget source = .ok text) :
      Made host source (.compile job checkFit) (.document text)
  | rendered {job : Job} {scale : Float} {text : String} {picture : ByteArray} (hsvg : isSvg source = false)
      (h : generate defaultBudget source = .ok text) (hpicture : host.draw scale text = .ok picture) :
      Made host source (.render job (some scale)) (.picture picture)
  | asItStands {job : Job} {scale : Float} {picture : ByteArray} (hsvg : isSvg source = true)
      (hpicture : host.draw scale source = .ok picture) :
      Made host source (.render job (some scale)) (.picture picture)

def deliver (host : Host (StateM σ)) (product : Product) : Option Path → CommandM (StateM σ) ByteArray
  | some path => writeFile host path product.content
  | none => product.shown host

/-- What becomes of a product that is handed over. Its file stands also when the line about it cannot be
printed. -/
inductive Delivered (host : Host (StateM σ)) (files : σ → Path → Option ByteArray) (product : Product) (s : σ) :
    Option Path → Except Problem ByteArray → σ → Prop
  | shown {output : ByteArray} (h : product.shown host = .ok output) :
      Delivered host files product s none (.ok output) s
  | unshown {words : String} (h : product.shown host = .error (.unprintable words)) :
      Delivered host files product s none (.error (.unprintable words)) s
  | written {path : Path} {line : ByteArray} {t : σ} (h : host.encode (announcement path) = .ok line)
      (ht : Wrote host files s path.toString product.content t) :
      Delivered host files product s (some path) (.ok line) t
  | unannounced {path : Path} {words : String} {t : σ} (h : host.encode (announcement path) = .error words)
      (ht : Wrote host files s path.toString product.content t) :
      Delivered host files product s (some path) (.error (.unprintable words)) t
  | unwritten {path : Path} {f : FileFault} {t : σ}
      (h : (host.writeFile path.toString product.content).run s = (.error f, t)) (ht : files t = files s) :
      Delivered host files product s (some path) (.error (.outputUnwritable path.toString f)) t
  | unnamed {path : Path} (h : path.toString.toList.contains '\x00' = true) :
      Delivered host files product s (some path) (.error .nullInPath) s

/-- How a request to draw comes out: it is refused before a script is run, its script fails, its picture
fails, or its product is handed over. -/
inductive Course (host : Host (StateM σ)) (files : σ → Path → Option ByteArray) (request : Request) (s : σ) :
    Except Problem ByteArray → σ → Prop
  | refused {p : Problem} {u : σ} (h : ∀ source path v, ¬ Accepted host s request source path v)
      (hp : p.report.status ≠ 4) (hu : files u = files s) : Course host files request s (.error p) u
  | undrawn {source : Source} {path : Option Path} {u : σ} {shown : Option String} {f : Failure}
      (h : Accepted host s request source path u) (hruns : request.runsScript source.text = true)
      (hf : generate defaultBudget source.text = .error f) (hu : files u = files s) :
      Course host files request s (.error (.drawing shown f)) u
  | unpictured {source : Source} {path : Option Path} {u : σ} {words : String}
      (h : Accepted host s request source path u)
      (hf : ∀ f, request.runsScript source.text = true → generate defaultBudget source.text ≠ .error f)
      (hu : files u = files s) : Course host files request s (.error (.picture words)) u
  | delivered {source : Source} {path : Option Path} {u t : σ} {product : Product}
      {r : Except Problem ByteArray} (h : Accepted host s request source path u)
      (hmade : Made host source.text request product) (hu : files u = files s)
      (ht : Delivered host files product u path r t) : Course host files request s r t

theorem generate_of_build {budget : Int} {source : String} {world : World}
    (h : buildDiagram budget source = .ok world) : generate budget source = match emit world with
      | .ok text _ => .ok text
      | .error f _ => .error f := by
  unfold generate
  rw [h]
  rfl

theorem outcome_document_of_build {source : Source} {world : World}
    (h : buildDiagram defaultBudget source.text = .ok world) (w : String) (s : σ) :
    outcome (document host source false) w s = match emit world with
      | .ok text _ => ((.ok text, w), s)
      | .error f _ => ((.error (.drawing none f), w), s) := by
  unfold document
  rw [h]
  simp only [Bool.false_eq_true, if_false, pure_bind]
  cases emit world <;> rfl

/-- The document of a script is what `generate` returns, and it fails as that does. -/
theorem outcome_document (host : Host (StateM σ)) (source : Source) (w : String) (s : σ) :
    (∃ text, generate defaultBudget source.text = .ok text ∧
      outcome (document host source false) w s = ((.ok text, w), s)) ∨
    ∃ f shown, generate defaultBudget source.text = .error f ∧
      outcome (document host source false) w s = ((.error (.drawing shown f), w), s) := by
  cases hbuild : buildDiagram defaultBudget source.text with
  | error f =>
    refine .inr ⟨f, some source.name, ?_, ?_⟩
    · unfold generate
      rw [hbuild]
      rfl
    · unfold document
      rw [hbuild]
      rfl
  | ok world =>
    rw [generate_of_build hbuild, outcome_document_of_build hbuild]
    cases emit world with
    | ok text t => exact .inl ⟨text, rfl, rfl⟩
    | error f t => exact .inr ⟨f, none, rfl, rfl⟩

theorem status_of_outputPath {job : Job} {input : Option Path} {suffix : String} {p : Problem}
    (h : outputPath job input suffix = .error p) : p.report.status ≠ 4 := by
  unfold outputPath at h
  split at h
  · split at h
    · cases h
      nofun
    · cases h
  · cases h

theorem printed_eq (host : Host (StateM σ)) (text : String) :
    printed host text = (host.encode text).mapError .unprintable := by
  unfold printed
  cases host.encode text <;> rfl

theorem Product.shown_error {product : Product} {p : Problem} (h : product.shown host = .error p) :
    ∃ words, p = .unprintable words := by
  cases product with
  | document text =>
    rw [Product.shown, printed_eq] at h
    cases hencode : host.encode text with
    | ok bytes =>
      rw [hencode] at h
      cases h
    | error words =>
      rw [hencode] at h
      cases h
      exact ⟨words, rfl⟩
  | picture bytes => cases h

theorem outcome_deliver (hhost : host.Orderly files) (product : Product) (path : Option Path) (s : σ) :
    ∃ r t, outcome (deliver host product path) "" s = ((r, ""), t) ∧
      Delivered host files product s path r t := by
  cases path with
  | none =>
    cases hshown : product.shown host with
    | ok output =>
      refine ⟨.ok output, s, ?_, .shown hshown⟩
      rw [deliver, hshown]
      rfl
    | error p =>
      obtain ⟨words, rfl⟩ := Product.shown_error hshown
      refine ⟨.error (.unprintable words), s, ?_, .unshown hshown⟩
      rw [deliver, hshown]
      rfl
  | some path =>
    unfold deliver writeFile
    dsimp only
    split
    · rename_i hnull
      exact ⟨_, s, rfl, .unnamed hnull⟩
    · rw [outcome_bind_ok (outcome_host (host.writeFile path.toString product.content) "" s)]
      generalize hwrite : (host.writeFile path.toString product.content).run s = after
      obtain ⟨written, t⟩ := after
      cases written with
      | error f => exact ⟨_, t, rfl, .unwritten hwrite (hhost.unwritten _ _ _ _ _ hwrite)⟩
      | ok _ =>
        have hwrote := hhost.written _ _ _ _ hwrite
        dsimp only
        rw [printed_eq]
        cases hline : host.encode (announcement path) with
        | ok line => exact ⟨.ok line, t, rfl, .written hline hwrote⟩
        | error words => exact ⟨.error (.unprintable words), t, rfl, .unannounced hline hwrote⟩

/-- A request that reads its source and finds a file for its result is refused in doing so, or goes on. -/
theorem course_ready (hhost : host.Orderly files) {request : Request} {s : σ} (job : Job) (suffix : String)
    {missing : Problem} (hmissing : missing.report.status ≠ 4)
    {rest : Source → Option Path → CommandM (StateM σ) ByteArray}
    (haccepted : ∀ source path u, Accepted host s request source path u →
      outcome (readSource host job) "" s = ((.ok (some source), ""), u) ∧
        outputPath job source.path suffix = .ok path)
    (hrest : ∀ source path u, outcome (readSource host job) "" s = ((.ok (some source), ""), u) →
      outputPath job source.path suffix = .ok path → files u = files s →
        ∃ r t, outcome (rest source path) "" u = ((r, ""), t) ∧ Course host files request s r t) :
    ∃ r t, outcome (do
      let source? ← readSource host job
      let path ← outputPath job (source?.bind (·.path)) suffix
      let some source := source? | throw missing
      rest source path) "" s = ((r, ""), t) ∧ Course host files request s r t := by
  obtain ⟨found, u, hread, hu, hstatus⟩ := quiet_readSource hhost job "" s
  cases found with
  | error p =>
    refine ⟨.error p, u, outcome_bind_error hread, .refused (fun source path v h => ?_) (hstatus p rfl) hu⟩
    cases (haccepted source path v h).1.symm.trans hread
  | ok source? =>
    rw [outcome_bind_ok hread]
    cases hpath : outputPath job (source?.bind (·.path)) suffix with
    | error p =>
      refine ⟨.error p, u, rfl, .refused (fun source path v h => ?_) (status_of_outputPath hpath) hu⟩
      obtain ⟨hsource, hfound⟩ := haccepted source path v h
      cases hsource.symm.trans hread
      cases hfound.symm.trans hpath
    | ok path =>
      cases source? with
      | none =>
        refine ⟨.error missing, u, rfl, .refused (fun source path v h => ?_) hmissing hu⟩
        cases (haccepted source path v h).1.symm.trans hread
      | some source => exact hrest source path u hread hpath hu

/-- Hands over a document; on standard output its last line is ended. -/
def deliverDocument (host : Host (StateM σ)) (path : Option Path) (text : String) :
    CommandM (StateM σ) ByteArray :=
  match path with
  | some p => writeFile host p text.toUTF8
  | none => printed host (if text.endsWith "\n" then text else text ++ "\n")

/-- How a request to compile comes out. -/
theorem course_compile (hhost : host.Orderly files) (job : Job) (s : σ) : ∃ r t,
    outcome (Command.compile host job false) "" s = ((r, ""), t) ∧
      Course host files (.compile job false) s r t := by
  have accepted (source : Source) (path : Option Path) (u : σ)
      (h : Accepted host s (.compile job false) source path u) :
      outcome (readSource host job) "" s = ((.ok (some source), ""), u) ∧
        outputPath job source.path ".svg" = .ok path := by
    cases h with
    | compile hsource hpath => exact ⟨hsource, hpath⟩
  have hmissing : (Problem.textWithoutValue false).report.status ≠ 4 := nofun
  refine course_ready hhost job ".svg" hmissing accepted fun source path u hread hpath hu => ?_
  have haccepted : Accepted host s (.compile job false) source path u := .compile hread hpath
  change ∃ r t, outcome (document host source false >>= deliverDocument host path) "" u = ((r, ""), t) ∧
    Course host files (.compile job false) s r t
  rcases outcome_document host source "" u with ⟨text, hgenerate, hdocument⟩ | ⟨f, shown, hgenerate, hdocument⟩
  · obtain ⟨r, t, ht, hdelivered⟩ := outcome_deliver hhost (.document text) path u
    refine ⟨r, t, ?_, .delivered haccepted (.compiled hgenerate) hu hdelivered⟩
    rw [outcome_bind_ok hdocument]
    cases path with
    | some p => exact ht
    | none =>
      -- The document ends its last line, so that standard output takes it as it is.
      rw [deliverDocument, if_pos (endsWith_of_generate hgenerate)]
      exact ht
  · exact ⟨_, u, outcome_bind_error hdocument, .undrawn haccepted rfl hgenerate hu⟩

def deliverPicture (host : Host (StateM σ)) (scale : Float) (path : Option Path) (text : String) :
    CommandM (StateM σ) ByteArray := do
  let bytes ← drawn host scale text
  deliver host (.picture bytes) path

/-- How the picture of an accepted request comes out. -/
theorem course_picture (hhost : host.Orderly files) {job : Job} {scale : Float} {source : Source}
    {path : Option Path} {s u : σ} {text : String}
    (h : Accepted host s (.render job (some scale)) source path u)
    (hmade : ∀ bytes, host.draw scale text = .ok bytes →
      Made host source.text (.render job (some scale)) (.picture bytes))
    (hruns : ∀ f, Request.runsScript source.text (.render job (some scale)) = true →
      generate defaultBudget source.text ≠ .error f) (hu : files u = files s) : ∃ r t,
    outcome (deliverPicture host scale path text) "" u = ((r, ""), t) ∧
      Course host files (.render job (some scale)) s r t := by
  unfold deliverPicture
  cases hdraw : host.draw scale text with
  | error words =>
    have hdrawn : drawn host scale text = .error (.picture words) := by
      unfold drawn
      rw [hdraw]
    rw [hdrawn]
    exact ⟨_, u, rfl, .unpictured h hruns hu⟩
  | ok bytes =>
    have hdrawn : drawn host scale text = .ok bytes := by
      unfold drawn
      rw [hdraw]
    obtain ⟨r, t, ht, hdelivered⟩ := outcome_deliver hhost (.picture bytes) path u
    rw [hdrawn]
    exact ⟨r, t, ht, .delivered h (hmade bytes hdraw) hu hdelivered⟩

/-- How a request to render comes out. -/
theorem course_render (hhost : host.Orderly files) (job : Job) (scale? : Option Float) (s : σ) : ∃ r t,
    outcome (Command.render host job scale?) "" s = ((r, ""), t) ∧
      Course host files (.render job scale?) s r t := by
  cases scale? with
  | none => exact ⟨_, s, rfl, .refused nofun nofun rfl⟩
  | some scale =>
    unfold Command.render
    dsimp only
    by_cases hscale : scale ≤ 0
    · rw [if_pos hscale]
      refine ⟨.error .scaleNotPositive, s, rfl, .refused (fun source path v h => ?_) nofun rfl⟩
      cases h with
      | render hpositive _ _ => exact hpositive hscale
    rw [if_neg hscale]
    have accepted (source : Source) (path : Option Path) (u : σ)
        (h : Accepted host s (.render job (some scale)) source path u) :
        outcome (readSource host job) "" s = ((.ok (some source), ""), u) ∧
          outputPath job source.path ".png" = .ok path := by
      cases h with
      | render _ hsource hpath => exact ⟨hsource, hpath⟩
    have hmissing : (Problem.textWithoutValue true).report.status ≠ 4 := nofun
    refine course_ready hhost job ".png" hmissing accepted fun source path u hread hpath hu => ?_
    have haccepted : Accepted host s (.render job (some scale)) source path u := .render hscale hread hpath
    change ∃ r t, outcome (if isSvg source.text = true then deliverPicture host scale path source.text
      else document host source false >>= deliverPicture host scale path) "" u = ((r, ""), t) ∧
        Course host files (.render job (some scale)) s r t
    cases hsvg : isSvg source.text with
    | true =>
      refine course_picture hhost haccepted (fun bytes hbytes => .asItStands hsvg hbytes) (fun f hruns => ?_) hu
      rw [Request.runsScript, hsvg] at hruns
      cases hruns
    | false =>
      rcases outcome_document host source "" u with ⟨text, hgenerate, hdocument⟩ | ⟨f, shown, hgenerate, hdocument⟩
      · obtain ⟨r, t, ht, hcourse⟩ := course_picture hhost haccepted
          (fun bytes hbytes => .rendered hsvg hgenerate hbytes)
          (fun f _ hf => by cases hgenerate.symm.trans hf) hu
        exact ⟨r, t, (outcome_bind_ok hdocument).trans ht, hcourse⟩
      · have hruns : Request.runsScript source.text (.render job (some scale)) = true := by
          rw [Request.runsScript, hsvg]
          rfl
        exact ⟨_, u, outcome_bind_error hdocument, .undrawn haccepted hruns hgenerate hu⟩

end WireSketch.Command
