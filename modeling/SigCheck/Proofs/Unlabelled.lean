import SigCheck.Proofs.Comparable
import SigCheck.Proofs.Coupling

/-!
# Labels do not count

A type carries marks that are only shown: the labels of parameters, what may be absent, and the
reference it was expanded from.  `Ty.bare` takes them all away, and types with the same bare type
are `Ty.Alike`.

Headers with alike signatures give the same check of every program (`Env.check_ignores_labels`): the
same faults, the same log, and the same diagnostics up to the texts of alike types.  The two checks
run side by side, since alike types are a similarity (`Ty.similarity_alike`), and since taking alike
types into use gives their objects the same numbers (`Ty.Alike.number`).
-/

namespace SigCheck

variable {ι : Type}

/-! ### Bare types -/

namespace Ty

/-- The type without labels, optional marks and references, at every depth. -/
def bare : Ty ι → Ty ι := fold fun _ shape _ => ofShape shape.required

theorem bare_eq (t : Ty ι) : t.bare = ofShape (t.shape.map bare).required := by
  rw [bare, fold_eq]

/-- The types are the same up to labels, optional marks and references. -/
def Alike (t u : Ty ι) : Prop := t.bare = u.bare

end Ty

theorem Shape.Rel.required_eq {τ : Type} {s s' : Shape ι τ} (h : Shape.Rel Eq Eq s s') :
    s.required = s'.required := by
  have hlist : ∀ {ts us : List τ}, List.Forall₂ Eq ts us → ts = us :=
    fun h => by rwa [List.forall₂_eq_eq_eq] at h
  cases h with
  | literal name builtin => rfl
  | value text => rfl
  | generic hbase hparams => rw [hbase, hlist hparams]
  | function hargs hreceiver hresult =>
    rw [hlist hargs, hresult]
    cases hreceiver with
    | none => rfl
    | some h => rw [h]
  | @object id id' fields fields' hid hfields =>
    have hmap : (fields.map fun f => { f with optional := false }) =
        fields'.map fun f => { f with optional := false } := by
      rw [← List.forall₂_eq_eq_eq, List.forall₂_map_left_iff, List.forall₂_map_right_iff]
      refine hfields.imp fun f g hf => ?_
      rw [hf.key, hf.type]
    unfold required
    dsimp only
    rw [hid, hmap]
  | union h => rw [hlist h]
  | intersection h => rw [hlist h]
  | tuple h => rw [hlist h]

namespace Ty

theorem similarity_alike : Similarity (Eq : ι → ι → Prop) Alike := by
  intro t u h
  have hmap : ∀ s : Shape ι (Ty ι), (s.map bare).mapId id = s.map bare := by
    intro s
    cases s <;> rfl
  unfold Alike at h
  rw [bare_eq, bare_eq, ofShape, ofShape, mk.injEq] at h
  refine Shape.Rel.of_map_eq (g := id) ?_
  rw [hmap, hmap]
  exact h.1

theorem alike_of_shape {t u : Ty ι} (h : Shape.Rel Eq Alike t.shape u.shape) : t.Alike u := by
  have hmap : Shape.Rel Eq Eq (t.shape.map bare) (u.shape.map bare) := by
    refine Shape.Rel.map ?_
    exact h
  unfold Alike
  rw [bare_eq, bare_eq, hmap.required_eq]

theorem Alike.number {t u : TypeExpr} (h : t.Alike u) : StateRel Eq Alike t.number u.number := by
  induction t using Ty.induction generalizing u with
  | step t ih _ =>
    have hshape : Shape.Rel (fun _ _ => True) (StateRel Eq Alike) (t.shape.map Ty.number)
        (u.shape.map Ty.number) :=
      ((similarity_alike t u h).imp_of_mem (fun _ _ _ _ _ => trivial)
        fun c hc _ _ hcd => ih c hc hcd).map
    rw [number_eq, number_eq]
    refine (hshape.number (S := Eq) ?_).bind fun s s' hs => .pure (alike_of_shape hs)
    rintro k _ rfl
    exact ⟨rfl, rfl⟩

end Ty

/-! ### Checks with alike headers -/

/-- Both loaders always give a header of the given name, and the headers that they give at the same
time assign alike types to the same names. -/
structure Loader.Alike (loader loader' : Loader) (name : String) : Prop where
  path? : loader.path? name = loader'.path? name
  load : ∀ asked, ∃ header header',
    loader.load asked name = .ok header ∧ loader'.load asked name = .ok header' ∧
    List.Forall₂ (fun s s' => s.1 = s'.1 ∧ s.2.Alike s'.2) header.signatures header'.signatures

/-- The states of two checks of a program with alike headers correspond if their types are alike. -/
def Correspondence.alike (root : Node) : Correspondence where
  root := root
  type := Ty.Alike
  names _ := True
  setting s s' := s.fileName = s'.fileName ∧ s.nextInstance = s'.nextInstance ∧
    s.loads = s'.loads ∧ s.loader.Alike s'.loader (Header.fileName s.fileName)

namespace Env

variable {root : Node} {env env' : Env}

theorem Rel.instantiate (h : Rel (.alike root) env env') {t u : TypeExpr} (htu : t.Alike u) :
    (env.instantiate t).1.Alike (env'.instantiate u).1 ∧
      Rel (.alike root) (env.instantiate t).2 (env'.instantiate u).2 := by
  obtain ⟨hfile, hnext, hloaders⟩ := h.setting
  obtain ⟨htype, hnext⟩ := htu.number _ _ hnext
  exact ⟨htype, { h with setting := ⟨hfile, hnext, hloaders⟩ }⟩

theorem Rel.bindSignatures (h : Rel (.alike root) env env') {ss ss' : List (String × TypeExpr)}
    (hss : List.Forall₂ (fun s s' => s.1 = s'.1 ∧ s.2.Alike s'.2) ss ss') :
    Rel (.alike root) (Env.bindSignatures ss env) (Env.bindSignatures ss' env') := by
  induction hss generalizing env env' with
  | nil => exact h
  | @cons s s' _ _ hs _ ih =>
    obtain ⟨name, t⟩ := s
    obtain ⟨name', u⟩ := s'
    obtain ⟨rfl, htu⟩ := hs
    obtain ⟨htype, hstate⟩ := h.instantiate htu
    exact ih (hstate.bind name htype .header)

theorem Rel.loadHeader (h : Rel (.alike root) env env') :
    Rel (.alike root) env.loadHeader env'.loadHeader := by
  obtain ⟨hfile, hnext, hloads, hloaders⟩ := h.setting
  change env.fileName = env'.fileName at hfile
  change env.loads = env'.loads at hloads
  obtain ⟨header, header', hload, hload', hsignatures⟩ := hloaders.load env.loads
  have hannounce := h.announceHeader hfile hloaders.path?
    ⟨hfile, hnext, congrArg (· + 1) hloads, hloaders⟩
  change env.loader.load env.loads (Header.fileName env.fileName) = .ok header at hload
  change env'.loader.load env.loads (Header.fileName env.fileName) = .ok header' at hload'
  rw [loadHeader_eq, loadHeader_eq, ← hfile, ← hloads, hload, hload']
  exact { hannounce.bindSignatures hsignatures with }

end Env

/-- The checks of a program with alike headers run side by side. -/
def Visit.Coupling.alike (root : Node) : Coupling where
  toCorrespondence := .alike root
  ids := Eq
  similar := Ty.similarity_alike
  same := by
    rintro i _ j _ rfl rfl
    rfl
  literal _ := rfl
  loadHeader _ _ := Env.Rel.loadHeader

namespace Env

/-- **Labels, optional marks and references never change what a check finds**, also if the loaders
give other headers each time they are asked. -/
theorem check_ignores_labels (root : Node) (fileName : String) (loader loader' : Loader)
    (headers headers' : Nat → Header)
    (hload : ∀ asked, loader.load asked (Header.fileName fileName) = .ok (headers asked))
    (hload' : ∀ asked, loader'.load asked (Header.fileName fileName) = .ok (headers' asked))
    (hpath : loader.path? (Header.fileName fileName) = loader'.path? (Header.fileName fileName))
    (hsignatures : ∀ asked, (headers asked).signatures.map (Prod.map id Ty.bare) =
      (headers' asked).signatures.map (Prod.map id Ty.bare)) (passes : Nat) :
    let env := (fun env => env.check.2)^[passes] (start root fileName loader)
    let env' := (fun env => env.check.2)^[passes] (start root fileName loader')
    env.check.1 = env'.check.1 ∧ env.check.2.fatal = env'.check.2.fatal ∧
      env.check.2.log = env'.check.2.log ∧
      List.Forall₂ (Diagnostic.Rel Ty.Alike) env.check.2.errors env'.check.2.errors := by
  have hloaders : loader.Alike loader' (Header.fileName fileName) := by
    refine ⟨hpath, fun asked => ⟨headers asked, headers' asked, hload asked, hload' asked, ?_⟩⟩
    exact (forall₂_map_eq (hsignatures asked)).imp fun s s' hs => Prod.ext_iff.1 hs
  have hroot : root.All (Visit.Coupling.alike root).Names :=
    Node.all_of_forall (fun _ _ _ => trivial) root
  have hstart : Rel (.alike root) (start root fileName loader) (start root fileName loader') :=
    rel_start rfl rfl ⟨rfl, rfl, rfl, hloaders⟩
  have hpasses := Visit.Coupling.iterate_check hroot hstart passes
  obtain ⟨hstate, houtcome⟩ := Visit.Coupling.check hroot hpasses
  exact ⟨houtcome, hstate.fatal, hstate.log, hstate.errors⟩

/-- The header with `type Name : String` and `make : (name: Name) => Name`. -/
def namedHeader : Header :=
  ⟨[.declares ⟨"Name", [], .literal "String"⟩,
    .assigns ⟨"make", .ofShape (.function [(Ty.literal "Name").withLabel "name" false] none
      (.literal "Name"))⟩]⟩

/-- The header with `make : (String) => String`. -/
def plainHeader : Header :=
  ⟨[.assigns ⟨"make", .ofShape (.function [.literal "String"] none (.literal "String"))⟩]⟩

/-- The loader that has one header only. -/
def onlyLoader (header : Header) : Loader := ⟨fun _ _ => .ok header, fun _ => none⟩

/-- A number returned as a `Name` is reported as one returned as a `String` is. -/
theorem check_ignores_labels_make :
    (∀ asked, (onlyLoader namedHeader).load asked (Header.fileName "make.js") = .ok namedHeader) ∧
    (∀ asked, (onlyLoader plainHeader).load asked (Header.fileName "make.js") = .ok plainHeader) ∧
    namedHeader.signatures.map (Prod.map id Ty.bare) =
      plainHeader.signatures.map (Prod.map id Ty.bare) ∧
    let env := (fun env => env.check.2)^[1] (start makeProgram "make.js" (onlyLoader namedHeader))
    let env' := (fun env => env.check.2)^[1] (start makeProgram "make.js" (onlyLoader plainHeader))
    env.check.2.errors.map Diagnostic.kind =
        [.typeClassMismatch "Name" "Number", .typeClassMismatch "Name" "Number"] ∧
      env'.check.2.errors.map Diagnostic.kind =
        [.typeClassMismatch "String" "Number", .typeClassMismatch "String" "Number"] ∧
      env.check.1 = env'.check.1 ∧ env.check.2.fatal = env'.check.2.fatal ∧
      env.check.2.log = env'.check.2.log ∧
      List.Forall₂ (Diagnostic.Rel Ty.Alike) env.check.2.errors env'.check.2.errors :=
  ⟨fun _ => rfl, fun _ => rfl, rfl, rfl, rfl, check_ignores_labels makeProgram "make.js"
    (onlyLoader namedHeader) (onlyLoader plainHeader) (fun _ => namedHeader) (fun _ => plainHeader)
    (fun _ => rfl) (fun _ => rfl) rfl (fun _ => rfl) 1⟩

end Env

end SigCheck
