import Mathlib.Data.List.NodupEquivFin
import SigCheck.Proofs.Parsing.Cursor

/-!
# Reading goes on after an error

Reading a header is a run of statements and failures (`Parse.Run`).  Each step of a run starts at
a later token than the one before: a statement takes a token, and after a failure reading goes on
behind the token where it stopped (`Parse.resume_cons_suffix`).  The statements and failures of a
header are those of a run (`Parse.run_statements`).

So the tokens at which the failures are found come one after the other
(`Parse.Run.found_sublist`), and the list of errors has their order.  A header is read as the tokens
of `throughEof` are.

Of the cursor over all tokens more can be said.  It asks for no token that is not there, neither
looks nor goes behind the first `eof`, whatever there is, and is left at that `eof`; and each of its
loops ends within as many turns as there are tokens, and one more (`Header.readTokens_eq`).
-/

namespace SigCheck

/-! ### The tokens that are read -/

/-- The tokens up to the first `eof`, with it; if there is none, one ends them, behind the last
token, or at `last` if there is no token. -/
def throughEof (last : Nat) : List Token → List Token
  | [] => [⟨.eof, ⟨last, last, 0⟩, ""⟩]
  | t :: ts => if t.kind = .eof then [t] else t :: throughEof t.span.stop ts

theorem throughEof_append (last : Nat) (ts : List Token) : throughEof last ts = beforeEof ts ++
    [(ts.find? (·.kind = .eof)).getD
      ⟨.eof, ⟨(ts.getLast?.map (·.span.stop)).getD last,
        (ts.getLast?.map (·.span.stop)).getD last, 0⟩, ""⟩] := by
  induction ts generalizing last with
  | nil => rfl
  | cons t ts ih =>
    have hlast : (((t :: ts).getLast?).map (·.span.stop)).getD last =
        (ts.getLast?.map (·.span.stop)).getD t.span.stop := by
      rw [List.getLast?_cons]
      cases ts.getLast? <;> rfl
    by_cases h : t.kind = .eof
    · simp [throughEof, beforeEof, h]
    · rw [throughEof, if_neg h, ih, hlast]
      simp [beforeEof, h]

theorem throughEof_eq (ts : List Token) : throughEof 0 ts = beforeEof ts ++ [eofToken ts] := by
  rw [throughEof_append, eofToken]
  cases ts.find? (·.kind = .eof) <;> rfl

theorem beforeEof_throughEof (ts others : List Token) :
    beforeEof (throughEof 0 ts ++ others) = beforeEof ts := by
  have hbefore : ∀ t ∈ beforeEof ts, decide (t.kind ≠ .eof) = true :=
    fun t ht => decide_eq_true (kind_ne_eof_of_mem ht)
  rw [throughEof_eq, List.append_assoc, beforeEof, List.takeWhile_append_of_pos hbefore]
  simp [kind_eofToken]

theorem eofToken_throughEof (ts others : List Token) :
    eofToken (throughEof 0 ts ++ others) = eofToken ts := by
  have hfind : (throughEof 0 ts ++ others).find? (·.kind = .eof) = some (eofToken ts) := by
    have hbefore : (beforeEof ts).find? (·.kind = .eof) = none :=
      List.find?_eq_none.2 fun t ht => by simpa using kind_ne_eof_of_mem ht
    rw [throughEof_eq, List.append_assoc, List.find?_append, hbefore]
    simp [kind_eofToken]
  rw [eofToken, hfind]

namespace Parse

/-! ### Runs -/

/-- The statements and failures that are met in reading the tokens, in order.  Each step leaves an
end of the tokens, and less of them. -/
inductive Run : List Token → List (Except Failure Statement) → Prop
  | done : Run [] []
  | read {ts rest : List Token} {s : Statement} {results : List (Except Failure Statement)}
      (hs : statement ts = .ok s rest) (hrest : rest <:+ ts) (hlt : rest.length < ts.length) :
      Run rest results → Run ts (.ok s :: results)
  | fail {ts stop : List Token} {expected : Expected} {results : List (Except Failure Statement)}
      (hs : statement ts = .fail expected stop) (hstop : stop <:+ ts)
      (hrest : resume stop <:+ stop) (hlt : (resume stop).length < ts.length) :
      Run (resume stop) results → Run ts (.error ⟨expected, stop⟩ :: results)

theorem run_statements (n : Nat) (ts : List Token) (hn : ts.length ≤ n) :
    Run ts (statements n ts) := by
  induction n generalizing ts with
  | zero =>
    obtain rfl := List.eq_nil_of_length_eq_zero (Nat.le_zero.1 hn)
    exact .done
  | succ n ih =>
    by_cases hts : ts = []
    · subst hts
      exact .done
    have hpasses := (agree_statement ts.length ts le_rfl).passes
    rw [statements, if_neg (by simpa using hts)]
    cases hs : statement ts with
    | ok s rest =>
      rw [hs] at hpasses
      have hlt := hpasses.taken s rest rfl
      exact .read hs hpasses.rest hlt (ih rest (by omega))
    | fail expected stop =>
      rw [hs] at hpasses
      have hstop : stop <:+ ts := hpasses.rest
      have hlt := length_resume_lt hts hstop
      exact .fail hs hstop (resume_suffix stop) hlt (ih (resume stop) (by omega))

theorem Run.eq_nil {results : List (Except Failure Statement)} (h : Run [] results) :
    results = [] := by
  cases h with
  | done => rfl
  | read _ _ hlt => cases hlt
  | fail _ _ _ hlt => cases hlt

/-- The error of a failure. -/
def errorOf? (eof : Token) : Except Failure Statement → Option ParseError
  | .error f => some (f.error eof)
  | .ok _ => none

/-- The tokens at which the failures are found come one after the other. -/
theorem Run.found_sublist {ts : List Token} {results : List (Except Failure Statement)}
    (h : Run ts results) (eof : Token) :
    ((results.filterMap (errorOf? eof)).map ParseError.found).Sublist (ts ++ [eof]) := by
  induction h with
  | done => exact List.nil_sublist _
  | read _ hrest _ _ ih => exact ih.trans (hrest.sublist.append_right [eof])
  | @fail ts stop expected results hs hstop _ _ hrun ih =>
    refine List.Sublist.trans ?_ (hstop.sublist.append_right [eof])
    cases stop with
    | nil =>
      -- it stopped at the end, so nothing is read after it
      obtain rfl := hrun.eq_nil
      exact List.Sublist.refl [eof]
    | cons t us =>
      -- reading goes on behind `t`, so `t` is not found again
      exact (ih.trans ((resume_cons_suffix t us).sublist.append_right [eof])).cons_cons t

end Parse

namespace Header

/-! ### Errors in order -/

theorem ofTokens_eq_error {ts : List Token} {errors : List ParseError} :
    ofTokens ts = .error errors ↔ errors ≠ [] ∧ errors =
      (Parse.statements (beforeEof ts).length (beforeEof ts)).filterMap
        (Parse.errorOf? (eofToken ts)) := by
  simp only [ofTokens]
  split
  · rename_i hempty
    constructor
    · intro h
      cases h
    · rintro ⟨hne, rfl⟩
      exact absurd (List.isEmpty_iff.1 hempty) hne
  · rename_i hempty
    rw [List.isEmpty_iff] at hempty
    constructor
    · rintro ⟨⟩
      exact ⟨hempty, rfl⟩
    · rintro ⟨-, rfl⟩
      rfl

/-- **Reading always goes on, and reports in order.**  The cursor over all tokens, kept from every
place behind the first `eof`, has an outcome, with that `eof` under it, and it has the same outcome
whatever the tokens behind that `eof` are.  No loop of the parsers needs its bound, the header is
what a run finds, and the errors are found at later and later tokens, the `eof` at last. -/
theorem ofTokens_recovers (ts : List Token) :
    (∀ allowed n, (∀ i ≤ (beforeEof ts).length, allowed i = true) → (beforeEof ts).length < n →
      readTokens allowed n ts = some (ofTokens ts, (beforeEof ts).length) ∧
      ∀ others, readTokens allowed n (throughEof 0 ts ++ others) = readTokens allowed n ts) ∧
    Parse.Unbounded ∧
    (∃ results, Parse.Run (beforeEof ts) results ∧
      (∀ h, ofTokens ts = .ok h ↔ results = h.statements.map .ok) ∧
      ∀ errors, ofTokens ts = .error errors ↔
        errors ≠ [] ∧ errors = results.filterMap (Parse.errorOf? (eofToken ts))) ∧
    (∀ others, ofTokens (throughEof 0 ts ++ others) = ofTokens ts) ∧
    ∀ errors, ofTokens ts = .error errors → errors ≠ [] ∧
      ∃ k : Nat → Nat, StrictMono k ∧ ∀ i e, errors[i]? = some e →
        ∃ t, (throughEof 0 ts)[k i]? = some t ∧ e.span = t.span ∧
          (t.kind = .error → e.message = t.value) := by
  have hrun := Parse.run_statements _ (beforeEof ts) le_rfl
  have hothers (others : List Token) : ofTokens (throughEof 0 ts ++ others) = ofTokens ts := by
    simp only [ofTokens, beforeEof_throughEof, eofToken_throughEof]
  refine ⟨fun allowed n hallowed hn => ?_, Parse.unbounded,
    ⟨_, hrun, fun h => ofTokens_eq_ok, fun errors => ofTokens_eq_error⟩, hothers,
    fun errors herrors => ?_⟩
  · have hread := readTokens_eq hallowed hn
    refine ⟨hread, fun others => ?_⟩
    have hbefore := beforeEof_throughEof ts others
    rw [hread, readTokens_eq (by rwa [hbefore]) (by rwa [hbefore]), hothers, hbefore]
  · obtain ⟨hne, rfl⟩ := ofTokens_eq_error.1 herrors
    refine ⟨hne, ?_⟩
    have hfound := hrun.found_sublist (eofToken ts)
    rw [← throughEof_eq] at hfound
    obtain ⟨k, hk⟩ := List.sublist_iff_exists_orderEmbedding_getElem?_eq.1 hfound
    refine ⟨k, k.strictMono, fun i e he => ⟨e.found, ?_, rfl, fun hkind => if_pos hkind⟩⟩
    rw [← hk i, List.getElem?_map, he]
    rfl

/-- The tokens of `x : @ y : }`, with an `eof`, a name and another `eof` behind them. -/
def strayTokens : List Token :=
  [⟨.name, ⟨0, 1, 0⟩, "x"⟩, ⟨.colon, ⟨2, 3, 0⟩, ":"⟩,
    ⟨.error, ⟨4, 5, 0⟩, "Unexpected character '@'"⟩, ⟨.name, ⟨6, 7, 0⟩, "y"⟩,
    ⟨.colon, ⟨8, 9, 0⟩, ":"⟩, ⟨.rbrace, ⟨10, 11, 0⟩, "\x7d"⟩, ⟨.eof, ⟨11, 11, 0⟩, ""⟩,
    ⟨.name, ⟨12, 13, 0⟩, "z"⟩, ⟨.eof, ⟨13, 13, 0⟩, ""⟩]

/-- Reading goes on at `y` after the first error, and the cursor stays at the first `eof`. -/
theorem ofTokens_recovers_stray :
    readTokens (· ≤ 6) 7 strayTokens = some (ofTokens strayTokens, 6) ∧
    ∃ errors, ofTokens strayTokens = .error errors ∧
      errors.map ParseError.text = ["Parse error at 4..5: Unexpected character '@'",
        "Parse error at 10..11: Expected type, found RBrace"] ∧
      ∃ k : Nat → Nat, StrictMono k ∧ ∀ i e, errors[i]? = some e →
        ∃ t, (throughEof 0 strayTokens)[k i]? = some t ∧ e.span = t.span ∧
          (t.kind = .error → e.message = t.value) :=
  ⟨((ofTokens_recovers strayTokens).1 (· ≤ 6) 7 (by decide) (by decide)).1,
    _, rfl, by decide +kernel, ((ofTokens_recovers strayTokens).2.2.2.2 _ rfl).2⟩

end Header

end SigCheck
