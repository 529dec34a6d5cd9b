import SigCheck.Proofs.Latch

/-!
# Where diagnostics point

A diagnostic is reported by the rule of some node, and the mismatch of two types deep inside a
comparison that only knows the location it was asked for.  All the same, every diagnostic of a visit
points at the visited node or at a node inside it; only a header that cannot be loaded is reported
at the program, whatever node asked for it.

`Env.pointing` is the contract that says so, with the locations of the visited node for the only
ones that steps may report at.  The root of the program never changes (`Env.root_performAll`), so it
is still the one that the check was started with.
-/

namespace SigCheck

namespace Node

/-- The node `m` is the node `n` or a node inside it. -/
inductive Contains : Node → Node → Prop
  | self (n : Node) : Contains n n
  | inside {n c m : Node} (hc : c ∈ n.kind.children) (h : Contains c m) : Contains n m

theorem Contains.children {n m c : Node} (h : n.Contains m) (hc : c ∈ m.kind.children) :
    n.Contains c := by
  induction h with
  | self n => exact .inside hc (.self c)
  | inside hc' _ ih => exact .inside hc' (ih hc)

theorem Contains.all {n m : Node} (h : n.Contains m) : m.All n.Contains := by
  induction m using Node.induction with
  | step m ih => exact .intro h fun c hc => ih c hc (h.children hc)

end Node

/-- The diagnostic of a visit to `n` points at a node in `n`, or, if it is about a header that could
not be loaded, at the program. -/
def Diagnostic.PointsInto (program n : Node) (d : Diagnostic) : Prop :=
  if d.isLoadFailure then d.loc = program.loc else ∃ m, n.Contains m ∧ d.loc = m.loc

namespace Env

variable {env : Env}

/-! ### Visits -/

/-- The program stays the same, and all new diagnostics point into the node `n`. -/
def pointing (n : Node) : Visit.Contract where
  inv _ := True
  rel env env' := env'.root = env.root ∧
    ∃ added, env'.errors = env.errors ++ added ∧ ∀ d ∈ added, d.PointsInto env.root n
  fault _ := True
  refl env := ⟨rfl, [], (List.append_nil _).symm, List.forall_mem_nil _⟩
  trans := by
    rintro a b c ⟨hroot, added, herrors, hadded⟩ ⟨hroot', added', herrors', hadded'⟩
    refine ⟨hroot'.trans hroot, added ++ added', ?_, List.forall_mem_append.2 ⟨hadded, ?_⟩⟩
    · rw [herrors', herrors, List.append_assoc]
    · exact hroot ▸ hadded'

/-- Steps that report nothing. -/
theorem pointing_of_eq {n : Node} {env env' : Env} (hroot : env'.root = env.root)
    (herrors : env'.errors = env.errors) : (pointing n).Allows env env' :=
  ⟨trivial, hroot, [], herrors.trans (List.append_nil _).symm, List.forall_mem_nil _⟩

theorem pointing_report {n : Node} (env : Env) {d : Diagnostic} (h : d.PointsInto env.root n) :
    (pointing n).Allows env (env.report d) :=
  ⟨trivial, rfl, [d], rfl, List.forall_mem_singleton.2 h⟩

theorem pointing_loadHeader (n : Node) (env : Env) : (pointing n).Allows env env.loadHeader := by
  cases hload : env.loader.load env.loads (Header.fileName env.fileName) with
  | ok header =>
    obtain ⟨scopes, events, next, heq⟩ := loadHeader_of_ok hload
    rw [heq]
    exact pointing_of_eq rfl rfl
  | error e =>
    obtain ⟨events, heq⟩ := loadHeader_of_error hload
    rw [heq]
    refine ⟨trivial, rfl, _, rfl, List.forall_mem_singleton.2 ?_⟩
    simp [Diagnostic.PointsInto, Diagnostic.isLoadFailure]

theorem pointing_steps (n : Node) : Visit.Steps (pointing n) n.Contains fun _ => True where
  children _ _ _ _ := trivial
  literal _ _ := trivial
  lookup _ _ _ _ _ _ _ _ := trivial
  function _ _ _ _ := trivial
  compare _ _ _ _ _ _ := trivial
  report m kind hm hkind env _ := by
    refine pointing_report env ?_
    rw [Diagnostic.PointsInto, Diagnostic.isLoadFailure_eq_false hkind, if_neg (by decide)]
    exact ⟨m, hm, rfl⟩
  skipFunction _ _ _ := pointing_of_eq rfl rfl
  skipNode _ _ _ := pointing_of_eq rfl rfl
  bind _ _ _ _ _ _ _ _ _ := pointing_of_eq rfl rfl
  foundReturn _ _ _ _ _ _ := pointing_of_eq rfl rfl
  assigned _ _ _ _ _ _ _ _ _ _ _ _ := pointing_of_eq rfl rfl
  setExports _ body _ _ env _ := by
    obtain ⟨value, heq⟩ := env.setExports_eq body
    dsimp only
    rw [heq]
    exact pointing_of_eq rfl rfl
  loadHeader env _ _ _ _ _ _ := pointing_loadHeader n env
  enterFunction _ _ _ _ _ _ _ _ _ _ _ _ _ _ _ := trivial
  exitFunction env env' name params type _ _ hrel := by
    obtain ⟨scopes, current, events, heq⟩ := env'.exitFunction_eq
    rw [heq]
    exact ⟨trivial, hrel⟩

theorem pointing_visit (env : Env) (n : Node) : (pointing n).rel env (env.visit n).2 :=
  ((pointing_steps n).visit (Node.Contains.self n).all env trivial).2.1

/-! ### Sessions -/

theorem root_perform (env : Env) (op : Operation) : (env.perform op).root = env.root := by
  cases op with
  | request r =>
    rw [perform, snd_answer]
    exact (pointing_visit env _).1
  | loadHeader => exact (pointing_loadHeader env.root env).2.1
  | exitFunction =>
    obtain ⟨scopes, current, events, heq⟩ := env.exitFunction_eq
    rw [perform, heq]
  | expect loc declared inferred =>
    rw [perform, Env.expect, Visit.expect]
    split <;> rfl
  | setExports body =>
    obtain ⟨value, heq⟩ := env.setExports_eq body
    rw [perform, heq]
  | bind name type origin => rfl
  | enterFunction name params type => rfl
  | report d => rfl

theorem root_performAll (env : Env) (ops : List Operation) :
    (env.performAll ops).root = env.root :=
  performAll_induction (P := fun env' => env'.root = env.root)
    (fun env' op h => (root_perform env' op).trans h) ops rfl

/-- **Every diagnostic points into the code that was visited**, also if a fault ends the visit. -/
theorem diagnostics_point_inside (root : Node) (fileName : String) (loader : Loader)
    (ops : List Operation) (n : Node) :
    let env := (start root fileName loader).performAll ops
    ∃ added, (env.visit n).2.errors = env.errors ++ added ∧
      ∀ d ∈ added, d.line = d.loc.start.line ∧ d.PointsInto root n := by
  intro env
  obtain ⟨-, added, herrors, hadded⟩ := pointing_visit env n
  have hroot : env.root = root := root_performAll _ ops
  rw [hroot] at hadded
  exact ⟨added, herrors, fun d hd => ⟨rfl, hadded d hd⟩⟩

/-- The one header that declares `resize : (Number) => void`. -/
def resizeLoader : Loader where
  load _ _ := .ok ⟨[.assigns ⟨"resize",
    .ofShape (.function [.literal "Number"] none (.literal "void"))⟩]⟩
  path? _ := none

/-- A text in the fourth line. -/
def lateText : Node := ⟨⟨⟨4, 9⟩, ⟨4, 14⟩⟩, .literal (some "'big'")⟩

/-- The call of `resize` with a text in its second line. -/
def resizeCall : Node :=
  ⟨⟨⟨3, 0⟩, ⟨5, 1⟩⟩, .callExpression ⟨⟨⟨3, 0⟩, ⟨3, 6⟩⟩, .identifier "resize"⟩ [lateText]⟩

/-- The mismatch is reported at the argument, which is in the call. -/
theorem diagnostics_point_inside_argument :
    let env := (start resizeCall "resize.js" resizeLoader).performAll [.loadHeader]
    (env.visit resizeCall).2.errors = [⟨.typeClassMismatch "Number" "String", lateText.loc⟩] ∧
      ∃ m, resizeCall.Contains m ∧ lateText.loc = m.loc := by
  intro env
  have herrors : (env.visit resizeCall).2.errors =
      [⟨.typeClassMismatch "Number" "String", lateText.loc⟩] := rfl
  obtain ⟨added, hadded, hpoint⟩ :=
    diagnostics_point_inside resizeCall "resize.js" resizeLoader [.loadHeader] resizeCall
  have hreported : added = [⟨.typeClassMismatch "Number" "String", lateText.loc⟩] :=
    hadded.symm.trans herrors
  rw [hreported] at hpoint
  exact ⟨herrors, (hpoint _ (List.mem_singleton_self _)).2⟩

end Env

end SigCheck
