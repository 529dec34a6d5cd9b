import SigCheck.Cli.Run
import SigCheck.Proofs.Concatenation

/-!
# Two ways to read a header

A header is read when a program is checked (`Header.parse`, through `headerLoader`) and when it is
printed (`printHeader`).  Printing looks for errors among the tokens first, and reads the header
only if there are none; the other way has no such test, and reads the errors like any other tokens.

Both accept the same texts, with the same header: no rule of the grammar takes a token that is an
error, so a text with an error among its tokens has no derivation (`Header.kind_ne_error_of_parse`)
and the test refuses nothing that could be read.
-/

namespace SigCheck

open Scan Grammar

/-- A text that can be read has no error among its tokens. -/
theorem Header.kind_ne_error_of_parse {source : String} {h : Header}
    (hparse : Header.parse source = .ok h) : ∀ t ∈ tokenize source, t.kind ≠ .error := by
  obtain ⟨ws, hlexes, hd⟩ := Header.parse_eq_ok_iff.1 hparse
  have hwords : NoError ((tokenize source).map Token.word) := by
    rw [hlexes.map_word_tokenize, noError_append, noError_cons]
    exact ⟨hd.noError, nofun, noError_nil⟩
  intro t ht
  exact hwords t.word (List.mem_map_of_mem ht)

namespace Cli

theorem Report.ofTokens_eq_nil_iff {file : String} {source : Text} {tokens : List Token} :
    Report.ofTokens file source tokens = [] ↔ ∀ t ∈ tokens, t.kind ≠ .error := by
  simp [Report.ofTokens]

/-! ### The header that is printed -/

/-- The header that is printed for a text: none if there is an error among its tokens, and otherwise
the one that is read from them. -/
def printedHeader? (source : String) : Option Header :=
  if (tokenize source).any (·.kind = .error) then none
  else (Header.ofTokens (tokenize source)).toOption

theorem printHeader_eq (input : String) (indent : Nat) (source : String) :
    ∃ notices, printHeader input indent source =
      (printedHeader? source).elim ⟨1, "", notices⟩ (printed indent) := by
  unfold printHeader printedHeader?
  dsimp only
  by_cases herror : (tokenize source).any (·.kind = .error) = true
  · have hreports : Report.ofTokens input source.toList (tokenize source) ≠ [] := by
      obtain ⟨t, ht, hkind⟩ := List.any_eq_true.1 herror
      exact fun hnil => Report.ofTokens_eq_nil_iff.1 hnil t ht (of_decide_eq_true hkind)
    rw [if_pos herror]
    split
    · contradiction
    · exact ⟨_, rfl⟩
  · have hreports : Report.ofTokens input source.toList (tokenize source) = [] := by
      refine Report.ofTokens_eq_nil_iff.2 fun t ht hkind => herror ?_
      exact List.any_eq_true.2 ⟨t, ht, decide_eq_true hkind⟩
    rw [if_neg herror, hreports]
    cases Header.ofTokens (tokenize source) with
    | ok h => exact ⟨[], rfl⟩
    | error errors => exact ⟨_, rfl⟩

/-- The test for errors among the tokens refuses nothing that could be read. -/
theorem printedHeader?_eq (source : String) :
    printedHeader? source = (Header.parse source).toOption := by
  unfold printedHeader?
  split
  · rename_i herror
    obtain ⟨t, ht, hkind⟩ := List.any_eq_true.1 herror
    cases hparse : Header.parse source with
    | error _ => rfl
    | ok h => exact absurd (of_decide_eq_true hkind) (Header.kind_ne_error_of_parse hparse t ht)
  · rfl

theorem printHeader_of_ok {source : String} {h : Header} (hparse : Header.parse source = .ok h)
    (input : String) (indent : Nat) : printHeader input indent source = printed indent h := by
  obtain ⟨notices, heq⟩ := printHeader_eq input indent source
  rw [printedHeader?_eq, hparse] at heq
  exact heq

theorem printed_of_some {indent : Nat} {h : Header} {text : String}
    (hrender : h.render? ⟨indent, 0⟩ = some text) :
    printed indent h = ⟨0, h.render ⟨indent, 0⟩ ++ "\n", []⟩ := by
  rw [printed, hrender, Header.render?_eq_some hrender]

theorem status_printed (indent : Nat) (h : Header) : (printed indent h).status ≠ 1 := by
  unfold printed
  split <;> simp

theorem status_printHeader (input : String) (indent : Nat) (source : String) :
    (printHeader input indent source).status ≠ 1 ↔ ∃ h, Header.parse source = .ok h := by
  obtain ⟨notices, heq⟩ := printHeader_eq input indent source
  rw [heq, printedHeader?_eq]
  cases Header.parse source with
  | ok h => exact ⟨fun _ => ⟨h, rfl⟩, fun _ => status_printed indent h⟩
  | error errors => exact ⟨fun hne => absurd rfl hne, nofun⟩

/-! ### The header that is loaded -/

theorem load_eq_ok_iff {files : Files} {asked : Nat} {input name : String} {h : Header} :
    (headerLoader files (some input)).load asked name = .ok h ↔
      ∃ source, files input = .ok source ∧ Header.parse source = .ok h := by
  simp only [headerLoader, Option.getD_some]
  cases files input with
  | error e => exact ⟨nofun, nofun⟩
  | ok source =>
    simp only [Header.ofSource, Except.ok.injEq, exists_eq_left']
    cases Header.parse source with
    | ok _ => simp [Except.mapError]
    | error _ => exact ⟨nofun, nofun⟩

/-- **Printing and loading accept the same headers.**  A text gets as far as being laid out exactly
if it can be read, and what is laid out is the header that is read, although only one of the two
ways looks for errors among the tokens: a text with such an error cannot be read.  So for every
file, the command that prints it refuses it exactly if it cannot be loaded as the header of a
program, and otherwise prints the header that is loaded, unless the indentation makes a number too
large. -/
theorem front_ends_agree :
    (∀ source, printedHeader? source = (Header.parse source).toOption ∧
      (∀ input indent, ((printHeader input indent source).status ≠ 1 ↔
          ∃ h, Header.parse source = .ok h) ∧
        ∃ notices, printHeader input indent source =
          (printedHeader? source).elim ⟨1, "", notices⟩ (printed indent)) ∧
      ((∃ t ∈ tokenize source, t.kind = .error) → ∀ h, Header.parse source ≠ .ok h)) ∧
    (∀ files input indent asked name, ((Command.header input indent).run files).status ≠ 1 ↔
      ∃ h, (headerLoader files (some input)).load asked name = .ok h) ∧
    ∀ files input indent asked name h, (headerLoader files (some input)).load asked name = .ok h →
      (Command.header input indent).run files = printed indent h ∧
      ∀ text, h.render? ⟨indent, 0⟩ = some text →
        (Command.header input indent).run files = ⟨0, h.render ⟨indent, 0⟩ ++ "\n", []⟩ := by
  refine ⟨fun source => ⟨printedHeader?_eq source, fun input indent =>
    ⟨status_printHeader input indent source, printHeader_eq input indent source⟩, ?_⟩, ?_, ?_⟩
  · rintro ⟨t, ht, hkind⟩ h hparse
    exact Header.kind_ne_error_of_parse hparse t ht hkind
  · intro files input indent asked name
    simp only [load_eq_ok_iff, Command.run, withSource]
    cases files input with
    | error e => exact ⟨fun hne => absurd rfl hne, nofun⟩
    | ok source => simpa using status_printHeader input indent source
  · intro files input indent asked name h hload
    obtain ⟨source, hfile, hparse⟩ := load_eq_ok_iff.1 hload
    have hrun : (Command.header input indent).run files = printed indent h := by
      simp only [Command.run, withSource, hfile]
      exact printHeader_of_ok hparse input indent
    exact ⟨hrun, fun text hrender => hrun.trans (printed_of_some hrender)⟩

/-- A stray character after a type that could be read keeps the text from being read; without it,
the text is loaded and printed. -/
theorem front_ends_agree_stray :
    (∃ t ∈ tokenize "limit : Number @", t.kind = .error) ∧
    (∀ h, Header.parse "limit : Number @" ≠ .ok h) ∧
    (headerLoader (fun _ => .ok "limit : Number") (some "limit.hjs")).load 0 "main.hjs" =
      .ok ⟨[.assigns ⟨"limit", .literal "Number"⟩]⟩ ∧
    (Command.header "limit.hjs" 2).run (fun _ => .ok "limit : Number") =
      ⟨0, "limit : Number\n", []⟩ := by
  obtain ⟨hsources, -, hfiles⟩ := front_ends_agree
  have herror : ∃ t ∈ tokenize "limit : Number @", t.kind = .error := by decide +kernel
  have hparse : Header.parse "limit : Number" =
      .ok ⟨[.assigns ⟨"limit", .literal "Number"⟩]⟩ := by decide +kernel
  have hload : (headerLoader (fun _ => .ok "limit : Number") (some "limit.hjs")).load 0 "main.hjs" =
      .ok ⟨[.assigns ⟨"limit", .literal "Number"⟩]⟩ := load_eq_ok_iff.2 ⟨_, rfl, hparse⟩
  have hrender : (⟨[.assigns ⟨"limit", .literal "Number"⟩]⟩ : Header).render? ⟨2, 0⟩ =
      some "limit : Number" := by decide +kernel
  refine ⟨herror, (hsources _).2.2 herror, hload, ?_⟩
  rw [(hfiles _ "limit.hjs" 2 0 "main.hjs" _ hload).1, printed, hrender]
  rfl

end Cli

end SigCheck
