import WireSketch.Proofs.Command.Course

/-! What a run leaves behind: one reply, and files as they were but for the one it has written. -/
namespace WireSketch.Command

variable {σ : Type} {host : Host (StateM σ)} {files : σ → Path → Option ByteArray}

/-- The line about a file at this path can be printed. -/
def Host.Announces (host : Host (StateM σ)) (path : Path) : Prop :=
  ∃ line, host.encode (announcement path) = .ok line

/-- A request has written its file, but failed as the line about it cannot be printed. -/
def Unannounced (host : Host (StateM σ)) (files : σ → Path → Option ByteArray) (request : Request) (s : σ)
    (p : Problem) (t : σ) : Prop :=
  ∃ source path u product words, Accepted host s request source (some path) u ∧
    Made host source.text request product ∧ Wrote host files s path.toString product.content t ∧
    host.encode (announcement path) = .error words ∧ p = .unprintable words

/-- A command that fails leaves the files as they were, or one file that it could not announce. -/
theorem Course.of_error {request : Request} {s t : σ} {p : Problem}
    (h : Course host files request s (.error p) t) :
    files t = files s ∨ Unannounced host files request s p t := by
  cases h with
  | refused _ _ hu => exact .inl hu
  | undrawn _ _ _ hu => exact .inl hu
  | unpictured _ _ hu => exact .inl hu
  | @delivered source _ u _ product _ haccepted hmade hu ht =>
    cases ht with
    | unshown _ => exact .inl hu
    | @unannounced path words _ hline hwrote =>
      exact .inr ⟨source, path, u, product, words, haccepted, hmade, hwrote.of_eq hu, hline, rfl⟩
    | unwritten _ ht => exact .inl (ht.trans hu)
    | unnamed _ => exact .inl hu

theorem Accepted.unique {request : Request} {s u v : σ} {source source' : Source} {path path' : Option Path}
    (h : Accepted host s request source path u) (h' : Accepted host s request source' path' v) :
    source = source' ∧ path = path' ∧ u = v := by
  cases h with
  | compile hsource hpath =>
    cases h' with
    | compile hsource' hpath' =>
      cases hsource.symm.trans hsource'
      cases hpath.symm.trans hpath'
      exact ⟨rfl, rfl, rfl⟩
  | render _ hsource hpath =>
    cases h' with
    | render _ hsource' hpath' =>
      cases hsource.symm.trans hsource'
      cases hpath.symm.trans hpath'
      exact ⟨rfl, rfl, rfl⟩

def failureStatus : Failure → Nat
  | .script _ => 2
  | .diagram _ => 3
  | .fault _ => 1

theorem status_drawing (shown : Option String) (f : Failure) :
    (Problem.drawing shown f).report.status = failureStatus f := by
  cases f <;> rfl

theorem status_ne_zero (p : Problem) : p.report.status ≠ 0 := by
  cases p with
  | drawing source f => cases f <;> nofun
  | textWithoutValue rendering => cases rendering <;> nofun
  | _ => nofun

def Request.draws : Request → Bool
  | compile .. | render .. => true
  | _ => false

def Request.checksFit : Request → Bool
  | compile _ checkFit => checkFit
  | _ => false

def Reply.ofResult (reporting : Reporting) (warnings : String) : Except Problem ByteArray → Reply
  | .ok output => { output, errors := warnings }
  | .error p => .ofProblem reporting warnings p

theorem run_of_request {debug : Bool} {words : List String} {s t : σ} {reporting : Reporting}
    {request : Request} {r : Except Problem ByteArray} {w : String}
    (hreporting : Reporting.ofWords words = .ok reporting) (hrequest : Request.ofWords words = .ok request)
    (h : outcome (request.answer host) "" s = ((r, w), t)) :
    (run host debug words).run s = (.ofResult { reporting with debug := reporting.debug || debug } w r, t) := by
  have hrun : (((request.answer host).run).run "").run s = ((r, w), t) := h
  unfold run
  rw [hreporting]
  dsimp only
  rw [hrequest]
  dsimp only
  rw [StateT.run_bind, hrun]
  cases r <;> rfl

/-- A run that returns has read how errors are shown; it refuses the command line, or answers its request. -/
theorem of_run {debug : Bool} {words : List String} {s t : σ} {reply : Reply}
    (h : (run host debug words).run s = (reply, t)) (hreturns : reply.early = false) :
    ∃ reporting, Reporting.ofWords words = .ok reporting ∧
      ((∃ e, Request.ofWords words = .error (.usage e) ∧ t = s ∧
        reply = .ofProblem { reporting with debug := reporting.debug || debug } "" (.usage e)) ∨
      ∃ request r w, Request.ofWords words = .ok request ∧ outcome (request.answer host) "" s = ((r, w), t) ∧
        reply = .ofResult { reporting with debug := reporting.debug || debug } w r) := by
  cases hreporting : Reporting.ofWords words with
  | error stop =>
    unfold run at h
    rw [hreporting] at h
    cases stop <;> cases h <;> cases hreturns
  | ok reporting =>
    refine ⟨reporting, rfl, ?_⟩
    cases hrequest : Request.ofWords words with
    | error stop =>
      unfold run at h
      rw [hreporting] at h
      dsimp only at h
      rw [hrequest] at h
      cases stop with
      | help =>
        cases h
        cases hreturns
      | usage e =>
        cases h
        exact .inl ⟨e, rfl, rfl, rfl⟩
    | ok request =>
      rcases hafter : outcome (request.answer host) "" s with ⟨⟨r, w⟩, u⟩
      cases (run_of_request hreporting hrequest hafter).symm.trans h
      exact .inr ⟨request, r, w, rfl, hafter, rfl⟩

theorem course_answer (hhost : host.Orderly files) {request : Request} (hdraws : request.draws = true)
    (hfit : request.checksFit = false) {s t : σ} {r : Except Problem ByteArray} {w : String}
    (h : outcome (request.answer host) "" s = ((r, w), t)) : w = "" ∧ Course host files request s r t := by
  cases request with
  | compile job checkFit =>
    cases checkFit with
    | true => cases hfit
    | false =>
      obtain ⟨r', t', hrun, hcourse⟩ := course_compile hhost job s
      cases h.symm.trans hrun
      exact ⟨rfl, hcourse⟩
  | render job scale =>
    obtain ⟨r', t', hrun, hcourse⟩ := course_render hhost job scale s
    cases h.symm.trans hrun
    exact ⟨rfl, hcourse⟩
  | _ => cases hdraws

/-- Whatever fails, there are no warnings, and no file has changed but for one that could not be announced. -/
theorem of_answer_error (hhost : host.Orderly files) {request : Request}
    (hfit : request.checksFit = false) {s t : σ} {p : Problem} {w : String}
    (h : outcome (request.answer host) "" s = ((.error p, w), t)) :
    w = "" ∧ (files t = files s ∨ Unannounced host files request s p t) := by
  cases hdraws : request.draws with
  | true =>
    obtain ⟨hw, hcourse⟩ := course_answer hhost hdraws hfit h
    exact ⟨hw, hcourse.of_error⟩
  | false =>
    cases request with
    | nothing =>
      cases h
      exact ⟨rfl, .inl rfl⟩
    | cheatsheet =>
      have hprinted : ((printed host (cheatsheet ++ "\n"), ""), s) = ((.error p, w), t) := h
      obtain ⟨hwarnings, rfl⟩ := Prod.mk.inj hprinted
      exact ⟨(Prod.mk.inj hwarnings).2.symm, .inl rfl⟩
    | _ => cases hdraws

/-- The product of a request to draw stands on standard output or in one file. -/
theorem Course.of_ok {request : Request} {s t : σ} {output : ByteArray}
    (h : Course host files request s (.ok output) t) : ∃ source path u product,
      Accepted host s request source path u ∧ Made host source.text request product ∧
      ((path = none ∧ product.shown host = .ok output ∧ files t = files s) ∨
        ∃ p, path = some p ∧ host.encode (announcement p) = .ok output ∧
          Wrote host files s p.toString product.content t) := by
  cases h with
  | @delivered source path u _ product _ haccepted hmade hu ht =>
    refine ⟨source, path, u, product, haccepted, hmade, ?_⟩
    cases ht with
    | shown h => exact .inl ⟨rfl, h, hu⟩
    | @written p _ _ hline hwrote => exact .inr ⟨p, rfl, hline, hwrote.of_eq hu⟩

/-- The status of a request to draw that is accepted is that of what its script fails with. -/
theorem Course.of_generate_error {request : Request} {s t u : σ} {r : Except Problem ByteArray}
    {source : Source} {path : Option Path} {f : Failure} (h : Course host files request s r t)
    (haccepted : Accepted host s request source path u) (hruns : request.runsScript source.text = true)
    (hf : generate defaultBudget source.text = .error f) : ∃ shown, r = .error (.drawing shown f) := by
  cases h with
  | refused hnot _ _ => exact (hnot _ _ _ haccepted).elim
  | undrawn haccepted' _ hf' _ =>
    obtain ⟨rfl, -, -⟩ := haccepted.unique haccepted'
    cases hf.symm.trans hf'
    exact ⟨_, rfl⟩
  | unpictured haccepted' hnot _ =>
    obtain ⟨rfl, -, -⟩ := haccepted.unique haccepted'
    exact (hnot f hruns hf).elim
  | delivered haccepted' hmade _ _ =>
    obtain ⟨rfl, -, -⟩ := haccepted.unique haccepted'
    cases hmade with
    | compiled hok => cases hf.symm.trans hok
    | rendered _ hok _ => cases hf.symm.trans hok
    | asItStands hsvg _ =>
      rw [Request.runsScript, hsvg] at hruns
      cases hruns

/-- Status four is that of a file that could not be written. -/
theorem Course.of_status_four {request : Request} {s t : σ} {p : Problem}
    (h : Course host files request s (.error p) t) (hp : p.report.status = 4) : ∃ source path product u f,
      Accepted host s request source (some path) u ∧ Made host source.text request product ∧
      (host.writeFile path.toString product.content).run u = (.error f, t) := by
  cases h with
  | refused _ hne _ => exact (hne hp).elim
  | @undrawn _ _ _ _ f _ _ _ _ => cases f <;> cases hp
  | unpictured _ _ _ => cases hp
  | @delivered source _ u _ product _ haccepted hmade hu ht =>
    cases ht with
    | @unwritten path f _ hwrite _ => exact ⟨source, path, product, u, f, haccepted, hmade, hwrite⟩
    | _ => cases hp

/-- The reply is one report of an error, in the form that the command line asks for, and has details only
where they are asked for. -/
def Reply.Reports (reply : Reply) (debug : Bool) (words : List String) : Prop :=
  ∃ (reporting : Reporting) (p : Problem), Reporting.ofWords words = .ok reporting ∧
    reply.status = p.report.status ∧ reply.output = .empty ∧
    reply.errors = (if reporting.json then p.report.json else p.report.text) ∧
    (reply.details ≠ none → reporting.debug = true ∨ debug = true)

theorem Reply.reports_ofProblem {debug : Bool} {words : List String} {reporting : Reporting}
    (h : Reporting.ofWords words = .ok reporting) (p : Problem) :
    (Reply.ofProblem { reporting with debug := reporting.debug || debug } "" p).Reports debug words := by
  refine ⟨reporting, p, h, rfl, rfl, String.empty_append, fun hdetails => ?_⟩
  unfold Reply.ofProblem at hdetails
  dsimp only at hdetails
  split at hdetails
  · rename_i hasked
    simp only [Bool.and_eq_true, Bool.or_eq_true] at hasked
    exact hasked.1
  · exact (hdetails rfl).elim

/-- A run that returns and fails leaves standard output empty and one report of an error. The files are as
they were, unless the run has written its file but cannot print the line about it. -/
theorem run_failure {debug : Bool} {words : List String} {s t : σ} {reply : Reply}
    (hhost : host.Orderly files)
    (hfit : ∀ request, Request.ofWords words = .ok request → request.checksFit = false)
    (h : (run host debug words).run s = (reply, t)) (hreturns : reply.early = false) (hfailed : reply.status ≠ 0) :
    reply.Reports debug words ∧ (files t = files s ∨ ∃ request p, Request.ofWords words = .ok request ∧
      Unannounced host files request s p t ∧ reply.status = p.report.status) := by
  obtain ⟨reporting, hreporting, ⟨e, -, ht, rfl⟩ | ⟨request, r, w, hrequest, houtcome, rfl⟩⟩ := of_run h hreturns
  · exact ⟨Reply.reports_ofProblem hreporting _, .inl (congrArg files ht)⟩
  · cases r with
    | ok output => exact (hfailed rfl).elim
    | error p =>
      obtain ⟨rfl, hfiles⟩ := of_answer_error hhost (hfit request hrequest) houtcome
      refine ⟨Reply.reports_ofProblem hreporting p, hfiles.imp_right fun hwritten => ?_⟩
      exact ⟨request, p, hrequest, hwritten, rfl⟩

def noWidth : Gauge := ⟨Unit, (), fun _ _ _ => return 0⟩

-- A standard output without any characters: the run fails with status one, and the file is there.
example :
    let host := { memoryHost .empty false noWidth with encode := fun _ => .error "no such character" }
    let after := (run host false ["compile", "--text", "", "-o", "a.svg"]).run {}
    after.1.status = 1 ∧ after.1.output = .empty ∧ after.2.files.length = 1 := by decide +kernel

end WireSketch.Command
