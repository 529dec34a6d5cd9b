import SigCheck.Proofs.Visiting

/-!
# Sessions

The state of a check lives longer than one visit.  A check can be asked to go through the program
again or to visit any node (`Env.Request`), and its state can also be changed step by step
(`Env.Operation`): a function is entered and not left, or left twice, the header is loaded in the
middle of a function, names are bound to any types.

What every visit keeps is kept by any number of requests (`Env.answerAll_induction`), and what every
operation keeps by any number of operations (`Env.performAll_induction`).
-/

namespace SigCheck

namespace Env

/-! ### Requests -/

/-- What a check is asked to look at. -/
inductive Request where
  /-- The whole program. -/
  | check
  | visit (n : Node)

/-- The node that a request is about, in a check of the program `root`. -/
def Request.node (root : Node) : Request → Node
  | .check => root
  | .visit n => n

variable (env : Env)

/-- Answers a request.  The check of a program has no type for an answer. -/
def answer : Request → Except Fault (Option TypeInst) × Env
  | .check => (env.check.1.map fun _ => none, env.check.2)
  | .visit n => env.visit n

/-- Answers requests one after the other. -/
def answerAll (env : Env) : List Request → List (Except Fault (Option TypeInst)) × Env
  | [] => ([], env)
  | r :: rs =>
    let (outcome, env) := env.answer r
    let (outcomes, env) := env.answerAll rs
    (outcome :: outcomes, env)

theorem snd_answer (r : Request) : (env.answer r).2 = (env.visit (r.node env.root)).2 := by
  cases r <;> rfl

theorem answerAll_induction {P : Env → Prop} (hvisit : ∀ env n, P env → P (env.visit n).2)
    (rs : List Request) {env : Env} (henv : P env) : P (env.answerAll rs).2 := by
  induction rs generalizing env with
  | nil => exact henv
  | cons r rs ih =>
    have hanswer : P (env.answer r).2 := by
      rw [snd_answer]
      exact hvisit env _ henv
    exact ih hanswer

/-! ### Operations -/

/-- The operations on the state of a check. -/
inductive Operation where
  | request (r : Request)
  | loadHeader
  | bind (name : String) (type : TypeInst) (origin : Origin)
  | enterFunction (name : String) (params : List Node) (type : TypeInst)
  | exitFunction
  | expect (loc : Location) (declared inferred : TypeInst)
  | report (d : Diagnostic)
  | setExports (body : List Node)

/-- The state after an operation. -/
def perform : Operation → Env
  | .request r => (env.answer r).2
  | .loadHeader => env.loadHeader
  | .bind name type origin => env.bind name type origin
  | .enterFunction name params type => env.enterFunction name params type
  | .exitFunction => env.exitFunction.2
  | .expect loc declared inferred => (env.expect loc declared inferred).2
  | .report d => env.report d
  | .setExports body => env.setExports body

/-- The state after operations one after the other. -/
def performAll (ops : List Operation) : Env := ops.foldl perform env

theorem performAll_induction {P : Env → Prop} (hstep : ∀ env op, P env → P (env.perform op))
    (ops : List Operation) {env : Env} (henv : P env) : P (env.performAll ops) := by
  induction ops generalizing env with
  | nil => exact henv
  | cons op ops ih => exact ih (hstep env op henv)

/-! ### What the operations change -/

theorem setExports_eq (body : List Node) :
    ∃ value, env.setExports body = { env with exports := value } := by
  unfold setExports
  split
  · exact ⟨_, rfl⟩
  · exact ⟨env.exports, rfl⟩

theorem announceHeader_eq :
    ∃ events, env.announceHeader = { env with loads := env.loads + 1, log := events } := by
  unfold announceHeader
  dsimp only
  split <;> exact ⟨_, rfl⟩

theorem bindSignatures_eq (signatures : List (String × TypeExpr)) :
    ∃ scopes next, bindSignatures signatures env =
      { env with scopes := scopes, nextInstance := next } := by
  induction signatures generalizing env with
  | nil => exact ⟨env.scopes, env.nextInstance, rfl⟩
  | cons signature signatures ih =>
    obtain ⟨scopes, next, hrest⟩ :=
      ih ((env.instantiate signature.2).2.bind signature.1 (env.instantiate signature.2).1 .header)
    exact ⟨scopes, next, hrest⟩

theorem exitFunction_eq : ∃ scopes current events, env.exitFunction.2 =
    { env with scopes := scopes, current := current, log := events } := by
  unfold exitFunction
  split
  · split
    · exact ⟨_, _, _, rfl⟩
    · exact ⟨env.scopes, env.current, env.log, rfl⟩
  · exact ⟨env.scopes, env.current, env.log, rfl⟩

variable {env}

theorem loadHeader_of_ok {header : Header}
    (h : env.loader.load env.loads (Header.fileName env.fileName) = .ok header) :
    ∃ scopes events next, env.loadHeader = { env with
        loads := env.loads + 1
        scopes := scopes
        log := events
        nextInstance := next
        header := some header } := by
  obtain ⟨events, hannounce⟩ := env.announceHeader_eq
  obtain ⟨scopes, next, hbind⟩ := env.announceHeader.bindSignatures_eq header.signatures
  refine ⟨scopes, events, next, ?_⟩
  rw [loadHeader_eq, h]
  dsimp only
  rw [hbind, hannounce]

theorem loadHeader_of_error {e : LoadError}
    (h : env.loader.load env.loads (Header.fileName env.fileName) = .error e) :
    ∃ events, env.loadHeader = { env with
        loads := env.loads + 1
        errors := env.errors ++
          [⟨.headerLoadFailed (Header.fileName env.fileName) e.message, env.root.loc⟩]
        log := events
        fatal := true } := by
  obtain ⟨events, hannounce⟩ := env.announceHeader_eq
  refine ⟨events ++ [.headerFailed (Header.fileName env.fileName) e.message], ?_⟩
  rw [loadHeader_eq, h, hannounce]
  rfl

/-- A loader that has no header for any program. -/
def noHeaders : Loader := ⟨fun _ name => .error (.missing name), fun _ => none⟩

end Env

end SigCheck
