import Mathlib.Data.List.Chain
import SigCheck.Ty.Bounded

/-!
# Re-flowed lists are filled greedily

A list that does not fit on its line is re-flowed: its members go on several lines, in order.
`Flow` says on which, without the loop that fills them:

* a line with several members stays below the column budget, with the separators behind its members
  and the columns that are taken on it, and so does the first line if it has any member;
* a line starts only with a member that would not have fitted on the line before it.

A member that is too long by itself goes on a line of its own, so that the first line may be empty.
There is exactly one flow of a list, and it is the one that `reflow?` writes, if it writes any
(`reflow_greedy`): it adds up the width of every line with the member that did not fit, and stops if
the sum is too large (`Counts`).  It does not for lists and places that are not out of all
proportion (`Flow.isChain_counts`), but the columns taken on the first line may be any number
(`not_forall_reflow`).

To follow the loop, `FlowFrom` starts at a line on which some members have been placed already.  The
next member joins the line or starts another one, and in either case a flow goes on as a flow
(`flowFrom_cons_of_fits`, `flowFrom_cons_of_not_fits`).
-/

namespace SigCheck

namespace Layout

open Text

/-- A line of a re-flowed list. -/
structure Line where
  /-- The columns in front of the line, taken by what stands before the list. -/
  taken : Nat
  /-- The blanks at the start of the line. -/
  margin : Text
  members : List Text

namespace Line

variable (separator : Text)

/-- The text of a line, with a separator behind every member. -/
def text (l : Line) : Text := l.margin ++ l.members.flatMap (· ++ separator)

/-- The columns up to the end of the line, the separator at its end included. -/
def width (l : Line) : Nat := (l.text separator).length + l.taken

/-- The line with more members on it. -/
def add (l : Line) (members : List Text) : Line := { l with members := l.members ++ members }

variable {separator}

@[simp] theorem members_add (l : Line) (ms : List Text) :
    (l.add ms).members = l.members ++ ms := rfl

@[simp] theorem taken_add (l : Line) (ms : List Text) : (l.add ms).taken = l.taken := rfl

@[simp] theorem add_nil (l : Line) : l.add [] = l := by
  rw [add, List.append_nil]

theorem add_add (l : Line) (ms ns : List Text) : (l.add ms).add ns = l.add (ms ++ ns) := by
  simp [add]

theorem text_add (l : Line) (ms : List Text) :
    (l.add ms).text separator = l.text separator ++ ms.flatMap (· ++ separator) := by
  simp [text, add]

theorem width_add_cons (l : Line) (m : Text) (ms : List Text) :
    (l.add (m :: ms)).width separator = l.width separator + m.length + separator.length +
      (ms.flatMap (· ++ separator)).length := by
  simp only [width, text_add, taken_add, List.flatMap_cons, List.length_append]
  omega

theorem width_add_singleton (l : Line) (m : Text) :
    (l.add [m]).width separator = l.width separator + m.length + separator.length :=
  width_add_cons l m []

end Line

/-- The line that is not the first and starts with `m`. -/
def newLine (indent : Nat) (m : Text) : Line := ⟨0, List.replicate (4 * (indent + 1)) ' ', [m]⟩

/-- The first member of `next` would not have fitted on the line `l`. -/
def BreaksBefore (separator : Text) (l next : Line) : Prop :=
  ∃ m, next.members.head? = some m ∧
    columnBudget ≤ l.width separator + m.length + separator.length

/-- The lines hold the members, filled greedily. -/
structure Flow (separator : Text) (p : Place) (members : List Text) (lines : List Line) : Prop where
  /-- All members are placed, in order. -/
  placed : lines.flatMap Line.members = members
  /-- The first line goes on at the place of the list. -/
  first : ∃ ms, lines.head? = some ⟨p.lineStart, [], ms⟩
  /-- The others start one level deeper, with nothing before them. -/
  others : ∀ l ∈ lines.tail, l.taken = 0 ∧ l.margin = List.replicate (4 * (p.indent + 1)) ' '
  first_fits : ∀ l ∈ lines.head?, l.members ≠ [] → l.width separator < columnBudget
  fits : ∀ l ∈ lines, 2 ≤ l.members.length → l.width separator < columnBudget
  /-- No line could have taken the member that starts the next one. -/
  breaks : lines.IsChain (BreaksBefore separator)

/-- The lines hold the members behind those of the line `l`, filled greedily. -/
structure FlowFrom (separator : Text) (indent : Nat) (l : Line) (members : List Text)
    (lines : List Line) : Prop where
  placed : lines.flatMap Line.members = l.members ++ members
  first : ∃ ms rest, lines = l.add ms :: rest ∧
    (ms ≠ [] → (l.add ms).width separator < columnBudget) ∧
    ∀ next ∈ rest, (next.taken = 0 ∧ next.margin = List.replicate (4 * (indent + 1)) ' ') ∧
      (2 ≤ next.members.length → next.width separator < columnBudget)
  breaks : lines.IsChain (BreaksBefore separator)

variable {separator : Text} {indent : Nat} {l : Line} {m : Text} {ms : List Text}
  {lines : List Line}

theorem flow_iff {p : Place} : Flow separator p ms lines ↔
    FlowFrom separator p.indent ⟨p.lineStart, [], []⟩ ms lines := by
  constructor
  · rintro ⟨hplaced, ⟨first, hhead⟩, hothers, hfirst, hfits, hbreaks⟩
    obtain ⟨rest, rfl⟩ := List.head?_eq_some_iff.1 hhead
    exact ⟨hplaced, ⟨first, rest, rfl, hfirst _ rfl, fun next hnext =>
      ⟨hothers next hnext, hfits next (List.mem_cons_of_mem _ hnext)⟩⟩, hbreaks⟩
  · rintro ⟨hplaced, ⟨first, rest, rfl, hfirst, hrest⟩, hbreaks⟩
    refine ⟨hplaced, ⟨first, rfl⟩, fun next hnext => (hrest next hnext).1, ?_, ?_, hbreaks⟩
    · rintro l ⟨⟩ hne
      exact hfirst hne
    · refine List.forall_mem_cons.2 ⟨fun htwo => hfirst ?_, fun next hnext => (hrest next hnext).2⟩
      rintro rfl
      simp at htwo

/-- Behind the line `l`, the first member that is left starts a line and breaks `l`. -/
theorem exists_next {rest : List Line} (hplaced : rest.flatMap Line.members = m :: ms)
    (hbreaks : (l :: rest).IsChain (BreaksBefore separator)) :
    ∃ next ns rest', rest = next :: rest' ∧ next.members = m :: ns ∧
      columnBudget ≤ l.width separator + m.length + separator.length := by
  cases rest with
  | nil => simp at hplaced
  | cons next rest' =>
    obtain ⟨⟨first, hfirst, hwidth⟩, -⟩ := List.isChain_cons_cons.1 hbreaks
    obtain ⟨ns, hns⟩ := List.head?_eq_some_iff.1 hfirst
    rw [List.flatMap_cons, hns, List.cons_append, List.cons.injEq] at hplaced
    obtain ⟨rfl, -⟩ := hplaced
    exact ⟨next, ns, rest', rfl, hns, hwidth⟩

theorem flowFrom_nil : FlowFrom separator indent l [] lines ↔ lines = [l] := by
  constructor
  · rintro ⟨hplaced, ⟨added, rest, rfl, -, -⟩, hbreaks⟩
    rw [List.flatMap_cons, Line.members_add, List.append_assoc, List.append_cancel_left_eq,
      List.append_eq_nil_iff] at hplaced
    obtain ⟨rfl, hrest⟩ := hplaced
    cases rest with
    | nil => rw [Line.add_nil]
    | cons next rest =>
      -- A line that follows has a first member, and none is left.
      obtain ⟨⟨first, hfirst, -⟩, -⟩ := List.isChain_cons_cons.1 hbreaks
      rw [List.flatMap_cons, List.append_eq_nil_iff] at hrest
      simp [hrest.1] at hfirst
  · rintro rfl
    exact ⟨by simp, ⟨[], [], by simp, by simp, by simp⟩, .singleton l⟩

theorem flowFrom_cons_of_fits
    (h : l.width separator + m.length + separator.length < columnBudget) :
    FlowFrom separator indent l (m :: ms) lines ↔
      FlowFrom separator indent (l.add [m]) ms lines := by
  constructor
  · rintro ⟨hplaced, ⟨added, rest, rfl, hfits, hrest⟩, hbreaks⟩
    have hadded := hplaced
    rw [List.flatMap_cons, Line.members_add, List.append_assoc,
      List.append_cancel_left_eq] at hadded
    cases added with
    | nil =>
      rw [Line.add_nil] at hbreaks
      obtain ⟨-, -, -, -, -, hwidth⟩ := exists_next hadded hbreaks
      omega
    | cons m' added =>
      obtain rfl : m' = m := (List.cons.inj hadded).1
      refine ⟨by simpa using hplaced, ⟨added, rest, by rw [Line.add_add, List.singleton_append],
        fun _ => ?_, hrest⟩, hbreaks⟩
      rw [Line.add_add, List.singleton_append]
      exact hfits (List.cons_ne_nil _ _)
  · rintro ⟨hplaced, ⟨added, rest, rfl, hfits, hrest⟩, hbreaks⟩
    rw [Line.add_add, List.singleton_append] at hplaced hfits hbreaks ⊢
    refine ⟨by simpa using hplaced, ⟨m :: added, rest, rfl, fun _ => ?_, hrest⟩, hbreaks⟩
    cases added with
    | nil => rwa [Line.width_add_singleton]
    | cons => exact hfits (List.cons_ne_nil _ _)

theorem flowFrom_cons_of_not_fits
    (h : ¬l.width separator + m.length + separator.length < columnBudget) :
    FlowFrom separator indent l (m :: ms) lines ↔
      ∃ rest, lines = l :: rest ∧ FlowFrom separator indent (newLine indent m) ms rest := by
  constructor
  · rintro ⟨hplaced, ⟨added, rest, rfl, hfits, hrest⟩, hbreaks⟩
    rw [List.flatMap_cons, Line.members_add, List.append_assoc,
      List.append_cancel_left_eq] at hplaced
    cases added with
    | nil =>
      rw [Line.add_nil] at hbreaks ⊢
      obtain ⟨next, ns, rest, rfl, hns, -⟩ := exists_next hplaced hbreaks
      obtain ⟨⟨⟨htaken, hmargin⟩, hnext⟩, hothers⟩ := List.forall_mem_cons.1 hrest
      obtain rfl : next = (newLine indent m).add ns := by
        cases next
        simp_all [newLine, Line.add]
      refine ⟨_, rfl, by simpa [newLine] using hplaced, ⟨ns, rest, rfl, fun hne => hnext ?_,
        hothers⟩, hbreaks.tail⟩
      rw [hns, List.length_cons]
      exact Nat.succ_le_succ (List.length_pos_iff.2 hne)
    | cons m' added =>
      obtain rfl : m' = m := (List.cons.inj hplaced).1
      have hwidth := hfits (List.cons_ne_nil _ _)
      rw [Line.width_add_cons] at hwidth
      omega
  · rintro ⟨_, rfl, hplaced, ⟨added, rest, rfl, hfits, hrest⟩, hbreaks⟩
    refine ⟨?_, ⟨[], _, by rw [Line.add_nil], by simp, ?_⟩, ?_⟩
    · rw [List.flatMap_cons, hplaced]
      rfl
    · refine List.forall_mem_cons.2 ⟨⟨⟨rfl, rfl⟩, fun htwo => hfits ?_⟩, hrest⟩
      rintro rfl
      simp [newLine] at htwo
    · exact hbreaks.cons_cons ⟨m, rfl, Nat.not_lt.1 h⟩

/-! ### The loop -/

/-- The width of the line `l` with the first member of `next` on it is a 64-bit number, and the
margin of `next` is not too long for a text. -/
def Counts (separator : Text) (l next : Line) : Prop :=
  (∀ m ∈ next.members.head?, l.width separator + m.length + separator.length < UInt64.size) ∧
    next.margin.length < Nat.pow 2 63

theorem spaces_eq (level : Nat) : spaces level = List.replicate (4 * level) ' ' := by
  rw [spaces, indentWidth, Nat.mul_comm]

/-- The margin of a line is written if it is not too long. -/
theorem margin?_eq (indent : Nat) : (word? (indent + 1)).bind spaces? =
    if 4 * (indent + 1) < Nat.pow 2 63 then some (List.replicate (4 * (indent + 1)) ' ')
    else none := by
  have hlimit : Nat.pow 2 63 ≤ UInt64.size := by decide
  have hlevel : indent + 1 < UInt64.size ∨ ¬4 * (indent + 1) < Nat.pow 2 63 := by omega
  rcases hlevel with hlevel | hmargin
  · simp only [word?, if_pos hlevel, Option.bind_some, spaces?, spaces_eq, indentWidth, textLimit,
      Nat.mul_comm (indent + 1) 4]
  · rw [if_neg hmargin, Option.bind_eq_none_iff]
    intro level hword
    obtain ⟨-, rfl⟩ := word?_eq_some_iff.1 hword
    rw [spaces?, indentWidth, textLimit, Nat.mul_comm, if_neg hmargin]

theorem length_text_add (l : Line) (m : Text) :
    (l.text separator).length + m.length + separator.length + l.taken =
      l.width separator + m.length + separator.length := by
  rw [Line.width]
  omega

/-- One turn of the loop, with a member that fits. -/
theorem reflowFrom?_of_fits
    (h : l.width separator + m.length + separator.length < columnBudget) :
    reflowFrom? indent separator l.taken (l.text separator) (m :: ms) =
      reflowFrom? indent separator (l.add [m]).taken ((l.add [m]).text separator) ms := by
  have hword : l.width separator + m.length + separator.length < UInt64.size :=
    Nat.lt_trans h (by decide)
  rw [reflowFrom?, length_text_add, word?, if_pos hword]
  simp [h, Line.text_add]

/-- One turn of the loop, with a member that does not fit. -/
theorem reflowFrom?_of_not_fits
    (h : ¬l.width separator + m.length + separator.length < columnBudget) :
    reflowFrom? indent separator l.taken (l.text separator) (m :: ms) =
      if l.width separator + m.length + separator.length < UInt64.size ∧
          4 * (indent + 1) < Nat.pow 2 63 then
        (reflowFrom? indent separator 0
          ((newLine indent (m.dropWhile isBlank)).text separator) ms).map (l.text separator :: ·)
      else none := by
  rw [reflowFrom?, length_text_add, word?]
  by_cases hword : l.width separator + m.length + separator.length < UInt64.size
  · simp only [if_pos hword, bind, Option.bind_some, if_neg h, ← Option.bind_assoc, margin?_eq]
    by_cases hmargin : 4 * (indent + 1) < Nat.pow 2 63
    · have hline : List.replicate (4 * (indent + 1)) ' ' ++ m.dropWhile isBlank ++ separator =
          (newLine indent (m.dropWhile isBlank)).text separator := by
        simp [newLine, Line.text]
      rw [if_pos hmargin, if_pos ⟨hword, hmargin⟩, Option.bind_some, hline, Option.map_eq_bind]
      rfl
    · rw [if_neg hmargin, if_neg fun hboth => hmargin hboth.2]
      rfl
  · rw [if_neg hword, if_neg fun hboth => hword hboth.1]
    rfl

/-- The loop goes on from a line to the only flow that does, if it can count it. -/
theorem exists_flowFrom (hms : ∀ m ∈ ms, m.dropWhile isBlank = m) (l : Line) :
    ∃ lines, (∀ lines', FlowFrom separator indent l ms lines' ↔ lines' = lines) ∧
      (lines.IsChain (Counts separator) →
        reflowFrom? indent separator l.taken (l.text separator) ms =
          some (lines.map (Line.text separator))) ∧
      (¬lines.IsChain (Counts separator) →
        reflowFrom? indent separator l.taken (l.text separator) ms = none) := by
  induction ms generalizing l with
  | nil =>
    exact ⟨[l], fun _ => flowFrom_nil, fun _ => rfl, fun h => absurd (.singleton l) h⟩
  | cons m ms ih =>
    obtain ⟨hm, hms⟩ := List.forall_mem_cons.1 hms
    by_cases hfits : l.width separator + m.length + separator.length < columnBudget
    · obtain ⟨lines, hflow, hsome, hnone⟩ := ih hms (l.add [m])
      rw [reflowFrom?_of_fits hfits]
      exact ⟨lines, fun lines' => (flowFrom_cons_of_fits hfits).trans (hflow lines'), hsome, hnone⟩
    · obtain ⟨lines, hflow, hsome, hnone⟩ := ih hms (newLine indent m)
      obtain ⟨ns, rest, rfl, -⟩ := ((hflow lines).2 rfl).first
      have hchain : (l :: (newLine indent m).add ns :: rest).IsChain (Counts separator) ↔
          (l.width separator + m.length + separator.length < UInt64.size ∧
            4 * (indent + 1) < Nat.pow 2 63) ∧
          ((newLine indent m).add ns :: rest).IsChain (Counts separator) := by
        rw [List.isChain_cons_cons]
        simp [Counts, newLine, Line.add]
      refine ⟨l :: (newLine indent m).add ns :: rest, fun lines' => ?_, fun h => ?_, fun h => ?_⟩
      · simp only [flowFrom_cons_of_not_fits hfits, hflow, exists_eq_right]
      · obtain ⟨hcounts, hrest⟩ := hchain.1 h
        rw [reflowFrom?_of_not_fits hfits, hm, if_pos hcounts]
        exact congrArg (Option.map _) (hsome hrest)
      · rw [reflowFrom?_of_not_fits hfits, hm]
        by_cases hcounts : l.width separator + m.length + separator.length < UInt64.size ∧
            4 * (indent + 1) < Nat.pow 2 63
        · rw [if_pos hcounts]
          exact congrArg (Option.map _) (hnone fun hrest => h (hchain.2 ⟨hcounts, hrest⟩))
        · rw [if_neg hcounts]

/-- What stands before the members of a line. -/
theorem Flow.start_eq {p : Place} (h : Flow separator p ms lines) (hl : l ∈ lines) :
    l.taken = p.lineStart ∧ l.margin = [] ∨
      l.taken = 0 ∧ l.margin = List.replicate (4 * (p.indent + 1)) ' ' := by
  obtain ⟨first, hfirst⟩ := h.first
  obtain ⟨rest, rfl⟩ := List.head?_eq_some_iff.1 hfirst
  rcases List.mem_cons.1 hl with rfl | hl
  · exact .inl ⟨rfl, rfl⟩
  · exact .inr (h.others l hl)

theorem Flow.not_mem_text {p : Place} (h : Flow separator p ms lines) (hsep : '\n' ∉ separator)
    (hms : ∀ m ∈ ms, '\n' ∉ m) (hl : l ∈ lines) : '\n' ∉ l.text separator := by
  have hmargin : '\n' ∉ l.margin := by
    rcases h.start_eq hl with ⟨-, heq⟩ | ⟨-, heq⟩ <;> simp [heq]
  have hmembers : ∀ m ∈ l.members, '\n' ∉ m := fun m hm =>
    hms m (h.placed ▸ List.mem_flatMap.2 ⟨l, hl, hm⟩)
  intro hmem
  rcases List.mem_append.1 hmem with hmem | hmem
  · exact hmargin hmem
  · obtain ⟨m, hm, hmem⟩ := List.mem_flatMap.1 hmem
    rcases List.mem_append.1 hmem with hmem | hmem
    · exact hmembers m hm hmem
    · exact hsep hmem

/-- A list is counted without trouble if the columns that are taken, a margin and all members with
their separators make up fewer than `2^63` columns together. -/
theorem Flow.isChain_counts {p : Place} (h : Flow separator p ms lines)
    (hsmall : p.lineStart + 4 * (p.indent + 1) + (ms.flatMap (· ++ separator)).length <
      Nat.pow 2 63) : lines.IsChain (Counts separator) := by
  have hlimit : Nat.pow 2 63 ≤ UInt64.size := by decide
  refine List.isChain_iff_forall_rel_of_append_cons_cons.2 fun l next before after hlines => ?_
  have hnext : next ∈ lines.tail := by
    rw [hlines]
    cases before <;> simp
  have hmargin : next.margin.length = 4 * (p.indent + 1) := by
    rw [(h.others next hnext).2, List.length_replicate]
  -- the members of the two lines are among those of the list
  have hmembers : (l.members.flatMap (· ++ separator)).length +
      (next.members.flatMap (· ++ separator)).length ≤ (ms.flatMap (· ++ separator)).length := by
    rw [← h.placed, hlines]
    simp only [List.flatMap_append, List.flatMap_cons, List.length_append]
    omega
  have hwidth : l.width separator ≤ p.lineStart + 4 * (p.indent + 1) +
      (l.members.flatMap (· ++ separator)).length := by
    have hl : l ∈ lines := hlines ▸ by simp
    rw [Line.width, Line.text, List.length_append]
    rcases h.start_eq hl with ⟨htaken, hstart⟩ | ⟨htaken, hstart⟩ <;>
      simp only [htaken, hstart, List.length_nil, List.length_replicate] <;> omega
  refine ⟨fun m hm => ?_, by omega⟩
  obtain ⟨ns, hns⟩ := List.head?_eq_some_iff.1 hm
  rw [hns, List.flatMap_cons, List.length_append, List.length_append] at hmembers
  omega

/-- **Re-flowing is greedy.**  Members without line feeds and without blanks in front have exactly
one flow behind any place, and re-flowing writes its lines if it can count them, and stops if not:
what a list that overflows is laid out as, once the ends of the lines are trimmed. -/
theorem reflow_greedy (hsep : '\n' ∉ separator) (p : Place) {parts : List Text}
    (hline : ∀ m ∈ parts, '\n' ∉ m) (hblank : ∀ m ∈ parts, m.dropWhile isBlank = m) :
    ∃ lines, Flow separator p parts lines ∧
      (∀ lines', Flow separator p parts lines' → lines' = lines) ∧
      (∀ l ∈ lines, '\n' ∉ l.text separator) ∧
      (lines.IsChain (Counts separator) →
        reflow? separator p parts = some (lines.map (Line.text separator))) ∧
      (¬lines.IsChain (Counts separator) → reflow? separator p parts = none) ∧
      (p.lineStart + 4 * (p.indent + 1) + (parts.flatMap (· ++ separator)).length < Nat.pow 2 63 →
        lines.IsChain (Counts separator)) ∧
      ∀ label, overflows (label ++ join separator parts) = true →
        members? label separator parts p = (reflow? separator p parts).map fun texts =>
          label ++ join ['\n'] (trimLines separator texts) := by
  obtain ⟨lines, hunique, hsome, hnone⟩ := exists_flowFrom hblank ⟨p.lineStart, [], []⟩
  have hflow : Flow separator p parts lines := flow_iff.2 ((hunique lines).2 rfl)
  refine ⟨lines, hflow, fun lines' h => (hunique lines').1 (flow_iff.1 h),
    fun l => hflow.not_mem_text hsep hline, hsome, hnone, hflow.isChain_counts, fun label h => ?_⟩
  rw [members?, if_pos h]

/-- Sixty columns do not fit behind ten, nor on a line with four blanks in front: the first line
stays empty, and the long member is alone on the second. -/
theorem reflow_greedy_long_member :
    let separator : Text := [' ', '|', ' ']
    let long : Text := List.replicate 60 'x'
    let parts : List Text := [long, ['A'], ['B', 'B']]
    '\n' ∉ separator ∧ (∀ m ∈ parts, '\n' ∉ m ∧ m.dropWhile isBlank = m) ∧
      ∃ lines, Flow separator ⟨0, 10⟩ parts lines ∧
        reflow? separator ⟨0, 10⟩ parts = some (lines.map (Line.text separator)) ∧
        lines.map (Line.text separator) = [[], "    ".toList ++ long ++ separator,
          "    A | BB | ".toList] := by
  intro separator long parts
  have hsep : '\n' ∉ separator := by decide
  have hparts : ∀ m ∈ parts, '\n' ∉ m ∧ m.dropWhile isBlank = m := by decide +kernel
  obtain ⟨lines, hflow, -, -, hsome, -, hsmall, -⟩ :=
    reflow_greedy hsep ⟨0, 10⟩ (fun m hm => (hparts m hm).1) fun m hm => (hparts m hm).2
  have hlines := hsome (hsmall (by decide +kernel))
  have hwritten : reflow? separator ⟨0, 10⟩ parts = some [[], "    ".toList ++ long ++ separator,
      "    A | BB | ".toList] := by decide +kernel
  exact ⟨hsep, hparts, lines, hflow, hlines, Option.some.inj (hlines.symm.trans hwritten)⟩

/-- Behind the last column, a list is not laid out at all. -/
theorem not_forall_reflow :
    ¬∀ (p : Place) (parts : List Text), (∀ m ∈ parts, '\n' ∉ m ∧ m.dropWhile isBlank = m) →
      ∃ lines, Flow [' ', '|', ' '] p parts lines ∧
        reflow? [' ', '|', ' '] p parts = some (lines.map (Line.text [' ', '|', ' '])) := by
  intro h
  obtain ⟨lines, -, hlines⟩ := h ⟨0, 18446744073709551615⟩ [['A']] (by decide +kernel)
  have hnone : reflow? [' ', '|', ' '] ⟨0, 18446744073709551615⟩ [['A']] = none := by decide +kernel
  rw [hnone] at hlines
  cases hlines

end Layout

end SigCheck
