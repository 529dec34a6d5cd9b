import SigCheck.Proofs.Sessions

/-!
# The latch of a check

A check whose header cannot be loaded is fatal.  The header is loaded at every `program` node, also
at one deep inside a function, and the rules around such a node go on after it: they leave the
function, and may still report.  The latch is right all the same, since a fatal check comes to no
further `program` node, and no other rule reports a failed header.

`Env.Exact` says this as an equation: the diagnostics hold one failed header if the check is fatal,
and none if it is not.  Every step of a visit keeps it (`Env.exact_steps`).
-/

namespace SigCheck

/-- The diagnostic is about a header that could not be loaded. -/
def Diagnostic.isLoadFailure (d : Diagnostic) : Bool :=
  match d.kind with
  | .headerLoadFailed _ _ => true
  | _ => false

theorem Diagnostic.isLoadFailure_eq_false {kind : DiagnosticKind}
    (h : ∀ file reason, kind ≠ .headerLoadFailed file reason) (loc : Location) :
    isLoadFailure ⟨kind, loc⟩ = false := by
  unfold isLoadFailure
  split
  · rename_i file reason hkind
    exact absurd hkind (h file reason)
  · rfl

namespace Env

variable {env env' : Env}

/-! ### The latch is exact -/

/-- The diagnostics hold a failed header exactly if the check is fatal, and then only one. -/
def Exact (env : Env) : Prop :=
  env.errors.countP (·.isLoadFailure) = if env.fatal then 1 else 0

theorem exact_start (root : Node) (fileName : String) (loader : Loader) :
    (start root fileName loader).Exact := rfl

theorem Exact.report (h : env.Exact) {kind : DiagnosticKind}
    (hkind : ∀ file reason, kind ≠ .headerLoadFailed file reason) (loc : Location) :
    (env.report ⟨kind, loc⟩).Exact := by
  have hother := Diagnostic.isLoadFailure_eq_false hkind loc
  unfold Exact
  simp only [Env.report, List.countP_append, List.countP_singleton, hother]
  exact h

theorem Exact.loadHeader (h : env.Exact) (hfatal : env.fatal = false) : env.loadHeader.Exact := by
  cases hload : env.loader.load env.loads (Header.fileName env.fileName) with
  | ok header =>
    obtain ⟨scopes, events, next, heq⟩ := loadHeader_of_ok hload
    rw [heq]
    exact h
  | error e =>
    obtain ⟨events, heq⟩ := loadHeader_of_error hload
    have hnone : env.errors.countP (·.isLoadFailure) = 0 := by
      rw [h, hfatal]
      rfl
    rw [heq, Exact, List.countP_append, hnone]
    rfl

/-- Every step keeps the latch exact. -/
theorem exact_steps : Visit.Steps (.keeping Exact) (fun _ => True) fun _ => True where
  children _ _ _ _ := trivial
  literal _ _ := trivial
  lookup _ _ _ _ _ _ _ _ := trivial
  function _ _ _ _ := trivial
  compare _ _ _ _ _ _ := trivial
  report n _ _ hkind _ henv := ⟨henv.report hkind n.loc, trivial⟩
  skipFunction _ _ henv := ⟨henv, trivial⟩
  skipNode _ _ henv := ⟨henv, trivial⟩
  bind _ _ _ _ henv _ _ _ _ := ⟨henv, trivial⟩
  foundReturn _ _ _ _ _ henv := ⟨henv, trivial⟩
  assigned _ _ _ _ _ _ _ _ _ _ _ henv := ⟨henv, trivial⟩
  setExports _ body _ _ env henv := by
    obtain ⟨value, heq⟩ := env.setExports_eq body
    refine ⟨?_, trivial⟩
    dsimp only
    rw [heq]
    exact henv
  loadHeader _ _ _ henv _ _ hfatal := ⟨henv.loadHeader hfatal, trivial⟩
  enterFunction _ _ _ _ _ _ _ _ henv _ _ _ _ _ _ := henv
  exitFunction _ env' _ _ _ _ henv' _ := by
    obtain ⟨scopes, current, events, heq⟩ := env'.exitFunction_eq
    exact ⟨heq ▸ henv', trivial⟩

theorem Exact.visit (h : env.Exact) (n : Node) : (env.visit n).2.Exact :=
  (exact_steps.visit (Node.all_of_forall (fun _ => trivial) n) env h).1

theorem Exact.fatal_iff (h : env.Exact) :
    env.fatal = true ↔ ∃ d ∈ env.errors, d.isLoadFailure = true := by
  rw [← List.countP_pos_iff, h]
  cases env.fatal <;> decide

theorem Exact.countP_le (h : env.Exact) : env.errors.countP (·.isLoadFailure) ≤ 1 := by
  rw [h]
  split <;> decide

/-! ### The latch is absorbing -/

theorem visit_of_fatal (h : env.fatal = true) (n : Node) : env.visit n = (.ok none, env) := by
  obtain ⟨loc, kind⟩ := n
  unfold Env.visit Visit.visit Visit.walk
  exact Visit.run_unlessFatal_of_fatal h _

theorem answer_of_fatal (h : env.fatal = true) (r : Request) : env.answer r = (.ok none, env) := by
  cases r with
  | check =>
    unfold answer check
    rw [visit_of_fatal h]
    rfl
  | visit n => exact visit_of_fatal h n

theorem answerAll_of_fatal (h : env.fatal = true) (rs : List Request) :
    env.answerAll rs = (List.replicate rs.length (.ok none), env) := by
  induction rs with
  | nil => rfl
  | cons r rs ih =>
    simp only [answerAll, answer_of_fatal h, ih]
    rfl

/-! ### A header that cannot be loaded -/

theorem visit_program_of_fatal {loc : Location} {body : List Node} (h : env.fatal = false)
    (hload : (env.setExports body).loadHeader.fatal = true) :
    env.visit ⟨loc, .program body⟩ = (.ok none, (env.setExports body).loadHeader) := by
  unfold Env.visit Visit.visit Visit.walk
  refine (Visit.run_unlessFatal h _).trans ?_
  exact congrArg (fun v : Visit.Typed => v.run (env.setExports body).loadHeader) (if_pos hload)

variable {root : Node} {fileName : String} {loader : Loader}

/-- The first check reports the header, and does nothing else but note its work. -/
theorem check_start {body : List Node} {e : LoadError} (hroot : root.kind = .program body)
    (hload : loader.load 0 (Header.fileName fileName) = .error e) :
    ∃ events value, (start root fileName loader).check = (.ok (), { start root fileName loader with
      loads := 1
      errors := [⟨.headerLoadFailed (Header.fileName fileName) e.message, root.loc⟩]
      log := events
      exports := value
      fatal := true }) := by
  obtain ⟨loc, kind⟩ := root
  obtain rfl : kind = .program body := hroot
  let env := start ⟨loc, .program body⟩ fileName loader
  obtain ⟨value, hexports⟩ := env.setExports_eq body
  have hfails : (env.setExports body).loader.load (env.setExports body).loads
      (Header.fileName (env.setExports body).fileName) = .error e := by
    rw [hexports]
    exact hload
  obtain ⟨events, heq⟩ := loadHeader_of_error hfails
  refine ⟨events, value, ?_⟩
  have hvisit : env.visit env.root = (.ok none, (env.setExports body).loadHeader) :=
    visit_program_of_fatal rfl (by rw [heq])
  rw [heq, hexports] at hvisit
  change (Except.map _ (env.visit env.root).1, (env.visit env.root).2) = _
  rw [hvisit]
  rfl

/-- **The latch is exact and absorbing.** -/
theorem latch_exact_absorbing (root : Node) (fileName : String) (loader : Loader) :
    (∀ rs, let env := ((start root fileName loader).answerAll rs).2
      (env.fatal = true ↔ ∃ d ∈ env.errors, d.isLoadFailure = true) ∧
        env.errors.countP (·.isLoadFailure) ≤ 1) ∧
    (∀ env : Env, env.fatal = true → ∀ rs,
      env.answerAll rs = (List.replicate rs.length (.ok none), env)) ∧
    (∀ body e, root.kind = .program body →
      loader.load 0 (Header.fileName fileName) = .error e → ∀ passes, 1 ≤ passes →
      let env := ((start root fileName loader).answerAll (List.replicate passes .check)).2
      env.errors = [⟨.headerLoadFailed (Header.fileName fileName) e.message, root.loc⟩] ∧
        env.scopes = (start root fileName loader).scopes) := by
  refine ⟨fun rs => ?_, fun env h rs => answerAll_of_fatal h rs, ?_⟩
  · have hexact := answerAll_induction (P := Exact) (fun _ n h => h.visit n) rs
      (exact_start root fileName loader)
    exact ⟨hexact.fatal_iff, hexact.countP_le⟩
  · intro body e hroot hload passes hpasses
    obtain ⟨events, value, hcheck⟩ := check_start hroot hload
    obtain ⟨more, rfl⟩ : ∃ more, passes = more + 1 := ⟨passes - 1, by omega⟩
    simp only [List.replicate_succ, answerAll, answer, hcheck]
    rw [answerAll_of_fatal rfl]
    exact ⟨rfl, rfl⟩

/-- A name in the second line. -/
def lateName : Node := ⟨⟨⟨2, 0⟩, ⟨2, 1⟩⟩, .identifier "x"⟩

/-- A program that is nothing but a name in its second line. -/
def lateProgram : Node := ⟨⟨⟨1, 0⟩, ⟨2, 1⟩⟩, .program [lateName]⟩

/-- A program without a header is fatal after the first pass; the second pass and a visit to a
single node change nothing. -/
theorem latch_exact_absorbing_missing :
    let env := ((start lateProgram "missing.js" noHeaders).answerAll [.check, .check]).2
    env.fatal = true ∧ env.answerAll [.visit lateName, .check] = ([.ok none, .ok none], env) ∧
      env.errors = [⟨.headerLoadFailed "missing.hjs" "no header named missing.hjs",
        ⟨⟨1, 0⟩, ⟨2, 1⟩⟩⟩] ∧
      env.scopes = [Scope.program, Scope.file] := by
  obtain ⟨hexact, habsorbing, hmissing⟩ :=
    latch_exact_absorbing lateProgram "missing.js" noHeaders
  obtain ⟨herrors, hscopes⟩ := hmissing [lateName] _ rfl rfl 2 (by decide)
  have hfatal := (hexact [.check, .check]).1.2 ⟨_, herrors ▸ List.mem_singleton_self _, rfl⟩
  have hname : Header.fileName "missing.js" = "missing.hjs" := by decide +kernel
  rw [hname] at herrors
  exact ⟨hfatal, habsorbing _ hfatal _, herrors, hscopes⟩

end Env

end SigCheck
