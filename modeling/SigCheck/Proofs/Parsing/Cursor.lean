import Mathlib.Data.List.Basic
import SigCheck.Header.Cursor
import SigCheck.Proofs.Parsing.Progress

/-!
# The cursor reads what the lists read

The readers of `Cursor` and the parsers of `Parse` are compared where they stand at the same tokens.
In a `Reading` the array begins with the tokens `body`, none of them an `eof`, and an `eof`; the
list `us` that is left of `body` stands for the place `Reading.place us`.  Only the places up to
that `eof` need be allowed, so a reader that has an outcome has looked no further.

`Reading.Follows n c p` says that the reader `c` has an outcome, and the one of the parser `p`,
wherever less than `n` tokens are left.  A reader that repeats is allowed as many turns as there are
tokens, and one more; it is enough, since the parser it follows takes a token in each turn
(`Parse.Forward`).  There is a rule for each way to combine readers, and with the rules one step for
each reader, up to the statements of a header (`Reading.statements_eq`).

Any list of tokens is such an array once it ends in an `eof` (`withEof_eq`), which gives
`Header.readTokens_eq`.
-/

namespace SigCheck

variable {α β : Type}

/-- A run of the cursor over the tokens `body`, the first `eof` and whatever is behind it. -/
structure Reading where
  tape : Tape
  body : List Token
  eof : Token
  others : List Token
  tokens_eq : tape.tokens = (body ++ eof :: others).toArray
  kind_body : ∀ t ∈ body, t.kind ≠ .eof
  kind_eof : eof.kind = .eof
  /-- No place behind the first `eof` need be allowed. -/
  allowed : ∀ i ≤ body.length, tape.allowed i = true
  /-- How often a loop may turn. -/
  turns : Nat
  enough : body.length < turns

namespace Parse

theorem forward_token (kind : TokenKind) : Forward 1 (token kind) :=
  agree_self_iff.1 fun n => agree_token n kind

theorem forward_accept (kind : TokenKind) : Forward 0 (accept kind) :=
  agree_self_iff.1 fun n => agree_accept n kind

theorem forward_key : Forward 1 key := agree_self_iff.1 agree_key

theorem forward_separated {item : Parse α} (hitem : Forward 1 item) (separator : TokenKind) :
    Forward 1 (separated separator item) :=
  agree_self_iff.1 fun n => agree_separated (agree_self_iff.2 hitem n)

theorem forward_enclosed {item : Parse α} {sep : Parse Unit} (hitem : Forward 1 item)
    (hsep : Forward 0 sep) (close : TokenKind) : Forward 1 (enclosed close item sep) :=
  agree_self_iff.1 fun n => agree_enclosed (agree_self_iff.2 hitem n) (agree_self_iff.2 hsep)

theorem token_of_ne {us : List Token} {kind : TokenKind} (h : nextKind us ≠ kind) :
    token kind us = .fail (.token kind) us := by
  cases us with
  | nil => rfl
  | cons => exact if_neg h

theorem accept_of_ne {us : List Token} {kind : TokenKind} (h : nextKind us ≠ kind) :
    accept kind us = .ok false us := by
  cases us with
  | nil => rfl
  | cons => exact if_neg h

end Parse

namespace Reading

open Parse (nextKind Forward forward_token forward_accept forward_key forward_separated
  forward_enclosed token_of_ne accept_of_ne)

variable (r : Reading) {us : List Token}

/-- The place of the cursor where `us` is left. -/
def place (us : List Token) : Nat := r.body.length - us.length

/-- The outcome of a reader that stands for a reply. -/
def outcome : Reply α → Except ParseError α × Nat
  | .ok a rest => (.ok a, r.place rest)
  | .fail expected rest => (.error ⟨expected, rest.head?.getD r.eof⟩, r.place rest)

/-- Where `us` is left, the reader `c` does what the parser `p` does. -/
def FollowsOn (c : Cursor α) (p : Parse α) (us : List Token) : Prop :=
  c r.tape (r.place us) = some (r.outcome (p us))

/-- Where less than `n` tokens are left, the reader `c` does what the parser `p` does. -/
def Follows (n : Nat) (c : Cursor α) (p : Parse α) : Prop :=
  ∀ us, us <:+ r.body → us.length < n → r.FollowsOn c p us

variable {r}

/-! ### Looking and moving -/

theorem place_add_le (h : us <:+ r.body) {j : Nat} (hj : j ≤ us.length) :
    r.place us + j ≤ r.body.length := by
  have := h.length_le
  rw [place]
  omega

theorem place_cons {t : Token} (h : t :: us <:+ r.body) : r.place us = r.place (t :: us) + 1 := by
  have := h.length_le
  simp only [place, List.length_cons] at *
  omega

theorem length_lt_size : r.body.length < r.tape.tokens.size := by
  simp [r.tokens_eq]

theorem getElem?_tokens (h : us <:+ r.body) {j : Nat} (hj : j ≤ us.length) :
    r.tape.tokens[r.place us + j]? = (us ++ [r.eof])[j]? := by
  obtain ⟨before, hbody⟩ := h
  have hplace : r.place us = before.length := by simp [place, ← hbody]
  have hlength : j < (us ++ [r.eof]).length := by simpa using Nat.lt_succ_of_le hj
  rw [hplace, r.tokens_eq, ← hbody, List.getElem?_toArray, List.append_assoc,
    List.getElem?_append_right (Nat.le_add_right _ _), Nat.add_sub_cancel_left,
    List.append_cons us r.eof r.others, List.getElem?_append_left hlength]

theorem tokenAt_eq (h : us <:+ r.body) {i j : Nat} (hj : j ≤ us.length) {t : Token}
    (ht : (us ++ [r.eof])[j]? = some t) :
    Cursor.tokenAt (r.place us + j) r.tape i = some (.ok t, i) := by
  rw [Cursor.tokenAt, if_pos (r.allowed _ (place_add_le h hj)), getElem?_tokens h hj, ht]
  rfl

theorem current_eq (h : us <:+ r.body) :
    Cursor.current r.tape (r.place us) = some (.ok (us.head?.getD r.eof), r.place us) := by
  have hmin : min (r.place us) (r.tape.tokens.size - 1) = r.place us := by
    have := place_add_le h (Nat.zero_le _)
    have := r.length_lt_size
    omega
  rw [Cursor.current, hmin]
  refine tokenAt_eq h (Nat.zero_le _) ?_
  cases us <;> rfl

theorem bind_of_eq {c : Cursor α} {f : α → Cursor β} {tape : Tape} {a : α} {i j : Nat}
    (h : c tape i = some (.ok a, j)) : (c >>= f) tape i = f a tape j := by
  simp only [bind, h]

theorem kind_head (us : List Token) : (us.head?.getD r.eof).kind = nextKind us := by
  cases us with
  | nil => exact r.kind_eof
  | cons => rfl

theorem nextKind_eq_eof (h : us <:+ r.body) : nextKind us = .eof ↔ us = [] := by
  cases us with
  | nil => simp [nextKind]
  | cons t us => simpa [nextKind] using r.kind_body t (h.subset List.mem_cons_self)

theorem atEnd_eq (h : us <:+ r.body) :
    Cursor.atEnd r.tape (r.place us) = some (.ok us.isEmpty, r.place us) := by
  have hsize : ¬r.tape.tokens.size ≤ r.place us := by
    have := place_add_le h (Nat.zero_le _)
    have := r.length_lt_size
    omega
  have hend : (nextKind us == .eof) = us.isEmpty := by
    rw [Bool.eq_iff_iff, beq_iff_eq, nextKind_eq_eof h, List.isEmpty_iff]
  rw [Cursor.atEnd, if_neg hsize, bind_of_eq (current_eq h), kind_head, hend]
  rfl

theorem check_eq (h : us <:+ r.body) (kind : TokenKind) (hkind : kind ≠ .eof) :
    Cursor.check kind r.tape (r.place us) = some (.ok (nextKind us == kind), r.place us) := by
  rw [Cursor.check, bind_of_eq (atEnd_eq h)]
  cases us with
  | nil => simpa [nextKind, pure] using hkind.symm
  | cons t us =>
    refine (bind_of_eq (current_eq h)).trans ?_
    rw [kind_head]
    rfl

/-- The token under the cursor is of the class `kind`, or there is none of this class. -/
theorem check_cases (h : us <:+ r.body) (kind : TokenKind) (hkind : kind ≠ .eof) :
    (∃ t rest, us = t :: rest ∧ t.kind = kind ∧
      Cursor.check kind r.tape (r.place us) = some (.ok true, r.place us)) ∨
    nextKind us ≠ kind ∧
      Cursor.check kind r.tape (r.place us) = some (.ok false, r.place us) := by
  rw [check_eq h kind hkind]
  by_cases hnext : nextKind us = kind
  · refine .inl ?_
    cases us with
    | nil => exact absurd hnext.symm hkind
    | cons t rest => exact ⟨t, rest, rfl, hnext, by simp [hnext]⟩
  · exact .inr ⟨hnext, by simp [hnext]⟩

theorem peek_eq (h : us <:+ r.body) {j : Nat} (hj : j ≤ us.length) :
    Cursor.peek j r.tape (r.place us) = some (.ok (some (nextKind (us.drop j))), r.place us) := by
  have hkind : (us ++ [r.eof])[j]?.map Token.kind = some (nextKind (us.drop j)) := by
    rw [← List.head?_drop, List.drop_append_of_le_length hj]
    cases us.drop j with
    | nil => exact congrArg some r.kind_eof
    | cons => rfl
  rw [Cursor.peek, if_pos (r.allowed _ (place_add_le h hj)), getElem?_tokens h hj, hkind]

theorem previous_eq {t : Token} (h : t :: us <:+ r.body) :
    Cursor.previous r.tape (r.place us) = some (.ok t, r.place us) := by
  have hmin : min (r.place us - 1) (r.tape.tokens.size - 1) = r.place (t :: us) := by
    have := place_add_le h (Nat.zero_le _)
    have := r.length_lt_size
    rw [place_cons h]
    omega
  rw [Cursor.previous, hmin]
  exact tokenAt_eq h (Nat.zero_le _) rfl

theorem advance_eq {t : Token} (h : t :: us <:+ r.body) :
    Cursor.advance r.tape (r.place (t :: us)) = some (.ok t, r.place us) := by
  have hmove : Cursor.move r.tape (r.place (t :: us)) = some (.ok (), r.place us) := by
    have hle := place_add_le h (Nat.succ_le_of_lt (Nat.zero_lt_succ us.length))
    rw [Cursor.move, if_pos (r.allowed _ hle), place_cons h]
  rw [Cursor.advance, bind_of_eq (atEnd_eq h)]
  exact (bind_of_eq hmove).trans (previous_eq h)

/-! ### Rules -/

section rules

variable {n k : Nat} {c : Cursor α} {p : Parse α} {f : α → Cursor β} {g : α → Parse β}

theorem followsOn_refuse (h : us <:+ r.body) (expected : Expected) :
    r.FollowsOn (Cursor.refuse expected) (Parse.refuse expected : Parse α) us :=
  bind_of_eq (current_eq h)

/-- A look at the tokens changes nothing. -/
theorem FollowsOn.look {γ : Type} {c : Cursor γ} {f : γ → Cursor α} {a : γ}
    (hc : c r.tape (r.place us) = some (.ok a, r.place us)) (hf : r.FollowsOn (f a) p us) :
    r.FollowsOn (c >>= f) p us :=
  (bind_of_eq hc).trans hf

/-- The second parser only sees the tokens that the first one leaves. -/
theorem FollowsOn.bind (hc : r.FollowsOn c p us) (hp : (p us).Passes k us)
    (hf : ∀ a rest, rest <:+ us → rest.length + k ≤ us.length → r.FollowsOn (f a) (g a) rest) :
    r.FollowsOn (c >>= f) (p >>= g) us := by
  unfold FollowsOn at hc hf ⊢
  cases hreply : p us with
  | ok a rest =>
    rw [hreply] at hc hp
    rw [Parse.bind_of_eq_ok hreply, bind_of_eq hc]
    exact hf a rest hp.rest (hp.taken a rest rfl)
  | fail expected rest =>
    rw [hreply] at hc
    simp only [Bind.bind, hc, hreply, outcome]

theorem FollowsOn.map (hc : r.FollowsOn c p us) (f : α → β) :
    r.FollowsOn (do return f (← c)) (do return f (← p)) us := by
  unfold FollowsOn at hc ⊢
  cases hreply : p us with
  | ok a rest | fail expected rest =>
    rw [hreply] at hc
    simp only [Bind.bind, Pure.pure, hc, hreply, outcome]

theorem follows_pure (a : α) : r.Follows n (pure a) (pure a) := fun _ _ _ => rfl

theorem follows_refuse (expected : Expected) :
    r.Follows n (Cursor.refuse expected) (Parse.refuse expected : Parse α) :=
  fun _ h _ => followsOn_refuse h expected

theorem Follows.map (hc : r.Follows n c p) (f : α → β) :
    r.Follows n (do return f (← c)) (do return f (← p)) :=
  fun us hus hlt => (hc us hus hlt).map f

theorem Follows.andThen (hc : r.Follows n c p) (hp : Forward k p)
    (hf : ∀ a, r.Follows n (f a) (g a)) : r.Follows n (c >>= f) (p >>= g) := by
  intro us hus hlt
  exact (hc us hus hlt).bind (hp us) fun a rest hrest hlength =>
    hf a rest (hrest.trans hus) (by omega)

end rules

/-! ### Single tokens -/

section tokens

variable (n : Nat) {kind : TokenKind}

theorem check_eq_true {t : Token} (h : t :: us <:+ r.body) (ht : t.kind = kind) :
    Cursor.check kind r.tape (r.place (t :: us)) = some (.ok true, r.place (t :: us)) := by
  have hkind : kind ≠ .eof := ht ▸ r.kind_body t (h.subset List.mem_cons_self)
  rw [check_eq h kind hkind, nextKind, ht, beq_self_eq_true]

theorem token_eq {t : Token} (h : t :: us <:+ r.body) (ht : t.kind = kind) :
    Cursor.token kind r.tape (r.place (t :: us)) = some (.ok t, r.place us) :=
  (bind_of_eq (check_eq_true h ht)).trans (advance_eq h)

theorem follows_token (hkind : kind ≠ .eof) :
    r.Follows n (Cursor.token kind) (Parse.token kind) := by
  intro us h _
  rcases check_cases h kind hkind with ⟨t, rest, rfl, ht, hcheck⟩ | ⟨hne, hcheck⟩
  · have heq : Parse.token kind (t :: rest) = .ok t rest := if_pos ht
    rw [FollowsOn, heq]
    exact token_eq h ht
  · refine .look hcheck ?_
    rw [FollowsOn, token_of_ne hne]
    exact followsOn_refuse h _

theorem accept_eq_true {t : Token} (h : t :: us <:+ r.body) (ht : t.kind = kind) :
    Cursor.accept kind r.tape (r.place (t :: us)) = some (.ok true, r.place us) :=
  (bind_of_eq (check_eq_true h ht)).trans (bind_of_eq (advance_eq h))

theorem accept_eq_false (h : us <:+ r.body) (hkind : kind ≠ .eof) (hne : nextKind us ≠ kind) :
    Cursor.accept kind r.tape (r.place us) = some (.ok false, r.place us) := by
  have hcheck := check_eq h kind hkind
  rw [beq_false_of_ne hne] at hcheck
  exact bind_of_eq hcheck

theorem follows_accept (hkind : kind ≠ .eof) :
    r.Follows n (Cursor.accept kind) (Parse.accept kind) := by
  intro us h _
  rcases check_cases h kind hkind with ⟨t, rest, rfl, ht, -⟩ | ⟨hne, -⟩
  · have heq : Parse.accept kind (t :: rest) = .ok true rest := if_pos ht
    rw [FollowsOn, heq]
    exact accept_eq_true h ht
  · rw [FollowsOn, accept_of_ne hne]
    exact accept_eq_false h hkind hne

theorem atName_eq (h : us <:+ r.body) :
    Cursor.atName r.tape (r.place us) = some (.ok (nextKind us).isName, r.place us) := by
  rw [Cursor.atName, bind_of_eq (current_eq h), kind_head]
  rfl

theorem name_eq {t : Token} (h : t :: us <:+ r.body) (ht : t.kind.isName = true) :
    Cursor.name r.tape (r.place (t :: us)) = some (.ok t.value, r.place us) := by
  rw [Cursor.name, bind_of_eq (atName_eq h), nextKind, if_pos ht]
  exact bind_of_eq (advance_eq h)

theorem follows_name : r.Follows n Cursor.name Parse.name := by
  intro us h _
  cases us with
  | nil => exact .look (atName_eq h) (followsOn_refuse h .name)
  | cons t us =>
    by_cases ht : t.kind.isName = true
    · have heq : Parse.name (t :: us) = .ok t.value us := if_pos ht
      rw [FollowsOn, heq]
      exact name_eq h ht
    · have heq : Parse.name (t :: us) = .fail .name (t :: us) := if_neg ht
      refine .look (atName_eq h) ?_
      rw [nextKind, if_neg ht, FollowsOn, heq]
      exact followsOn_refuse h .name

theorem follows_key : r.Follows n Cursor.key Parse.key := by
  intro us h hlt
  rcases check_cases h .string (by decide) with ⟨t, rest, rfl, ht, hcheck⟩ | ⟨hne, hcheck⟩
  · have heq : Parse.key (t :: rest) = .ok t.value rest := if_pos ht
    refine .look hcheck ?_
    rw [FollowsOn, heq]
    exact bind_of_eq (advance_eq h)
  · have heq : Parse.key us = Parse.name us := by
      cases us with
      | nil => rfl
      | cons => exact if_neg hne
    refine .look hcheck ?_
    rw [FollowsOn, heq]
    exact follows_name n us h hlt

theorem follows_fieldEnd : r.Follows n Cursor.fieldEnd Parse.fieldEnd := by
  intro us h _
  refine .look (check_eq h .comma (by decide)) (.look (check_eq h .semicolon (by decide)) ?_)
  cases us with
  | nil => exact .look (check_eq h .rbrace (by decide)) (followsOn_refuse h .fieldEnd)
  | cons t us =>
    by_cases hend : t.kind = .comma ∨ t.kind = .semicolon
    · have heq : Parse.fieldEnd (t :: us) = .ok () us := if_pos hend
      have hcheck : (nextKind (t :: us) == .comma || nextKind (t :: us) == .semicolon) = true := by
        simpa [nextKind] using hend
      rw [hcheck, FollowsOn, heq]
      exact bind_of_eq (advance_eq h)
    · have hcheck : (nextKind (t :: us) == .comma || nextKind (t :: us) == .semicolon) = false := by
        simpa [nextKind] using hend
      rw [hcheck]
      refine .look (check_eq h .rbrace (by decide)) ?_
      by_cases hbrace : t.kind = .rbrace
      · have heq : Parse.fieldEnd (t :: us) = .ok () (t :: us) :=
          (if_neg hend).trans (if_pos hbrace)
        simp [FollowsOn, heq, nextKind, hbrace, outcome, pure]
      · have heq : Parse.fieldEnd (t :: us) = .fail .fieldEnd (t :: us) :=
          (if_neg hend).trans (if_neg hbrace)
        rw [nextKind, beq_false_of_ne hbrace, FollowsOn, heq]
        exact followsOn_refuse h .fieldEnd

theorem follows_commaOr (hkind : kind ≠ .eof) :
    r.Follows n (Cursor.commaOr kind) (Parse.commaOr kind) := by
  intro us h hlt
  rcases check_cases h kind hkind with ⟨t, rest, rfl, ht, hcheck⟩ | ⟨hne, hcheck⟩
  · have heq : Parse.commaOr kind (t :: rest) = .ok () (t :: rest) := if_pos ht
    refine .look hcheck ?_
    rw [FollowsOn, heq]
    rfl
  · have heq : Parse.commaOr kind us = (do let _ ← Parse.token .comma; return : Parse Unit) us :=
      if_neg hne
    have hcomma := (follows_token n (by decide)).andThen (forward_token .comma) fun _ =>
      follows_pure (r := r) ()
    refine .look hcheck ?_
    rw [FollowsOn, heq]
    exact hcomma us h hlt

end tokens

/-! ### Lists -/

section lists

variable {n : Nat} {close separator : TokenKind} {item : Cursor α} {item' : Parse α}
  {sep : Cursor Unit} {sep' : Parse Unit}

/-- A loop of the cursor that may turn once more than there are tokens left. -/
theorem followsOn_itemsUntil (hclose : close ≠ .eof) (hitem : r.Follows n item item')
    (hforward : Forward 1 item') (hsep : r.Follows n sep sep') (hsep' : Forward 0 sep')
    {m m' : Nat} (h : us <:+ r.body) (hn : us.length < n) (hm : us.length < m)
    (hm' : us.length ≤ m') :
    r.FollowsOn (Cursor.itemsUntil close item sep m) (Parse.itemsUntil close item' sep' m') us := by
  induction m generalizing m' us with
  | zero => cases hm
  | succ m ih =>
    rcases check_cases h close hclose with ⟨t, rest, rfl, ht, hcheck⟩ | ⟨hne, hcheck⟩
    · obtain ⟨m', rfl⟩ : ∃ k, m' = k + 1 := ⟨m' - 1, by simp at hm'; omega⟩
      have heq : Parse.itemsUntil close item' sep' (m' + 1) (t :: rest) = .ok [] (t :: rest) :=
        if_pos (by simp [nextKind, ht])
      refine .look hcheck ?_
      rw [FollowsOn, heq]
      rfl
    · refine .look hcheck (.look (atEnd_eq h) ?_)
      cases us with
      | nil => cases m' <;> rfl
      | cons t us =>
        obtain ⟨m', rfl⟩ : ∃ k, m' = k + 1 := ⟨m' - 1, by simp at hm'; omega⟩
        have heq : Parse.itemsUntil close item' sep' (m' + 1) (t :: us) = (do
            let a ← item'
            sep'
            let as ← Parse.itemsUntil close item' sep' m'
            return a :: as) (t :: us) := if_neg (by simpa using hne)
        rw [FollowsOn, heq]
        refine (hitem _ h hn).bind (hforward _) fun a rest hrest hlength => ?_
        refine (hsep rest (hrest.trans h) (by omega)).bind (hsep' rest) fun _ left hleft _ => ?_
        have hle := hleft.length_le
        simp only [List.length_cons] at hn hm hm' hlength
        exact (ih (hleft.trans (hrest.trans h)) (by omega) (by omega) (by omega)).map (a :: ·)

theorem follows_enclosed (hclose : close ≠ .eof) (hitem : r.Follows n item item')
    (hforward : Forward 1 item') (hsep : r.Follows n sep sep') (hsep' : Forward 0 sep') :
    r.Follows n (Cursor.enclosed r.turns close item sep) (Parse.enclosed close item' sep') := by
  intro us h hn
  have henough : us.length < r.turns := Nat.lt_of_le_of_lt h.length_le r.enough
  have hitems := followsOn_itemsUntil hclose hitem hforward hsep hsep' h hn henough le_rfl
  have hagree : Parse.Agree us.length 0 (Parse.itemsUntil close item' sep' us.length)
      (Parse.itemsUntil close item' sep' us.length) :=
    Parse.agree_itemsUntil (Parse.agree_self_iff.2 hforward _) (Parse.agree_self_iff.2 hsep')
      le_rfl le_rfl
  exact hitems.bind (hagree us le_rfl).passes fun items rest hrest hlength =>
    ((follows_token n hclose).map fun _ => items) rest (hrest.trans h) (by omega)

theorem followsOn_following (hseparator : separator ≠ .eof) (hitem : r.Follows n item item')
    (hforward : Forward 1 item') {m m' : Nat} (h : us <:+ r.body) (hn : us.length < n)
    (hm : us.length < m) (hm' : us.length ≤ m') :
    r.FollowsOn (Cursor.following separator item m) (Parse.following separator item' m') us := by
  induction m generalizing m' us with
  | zero => cases hm
  | succ m ih =>
    cases m' with
    | zero =>
      obtain rfl := List.eq_nil_of_length_eq_zero (Nat.le_zero.1 hm')
      exact .look (follows_accept n hseparator [] h hn) rfl
    | succ m' =>
      refine (follows_accept n hseparator us h hn).bind (forward_accept separator us) ?_
      intro found rest hrest _
      have hle := hrest.length_le
      cases found with
      | false => rfl
      | true =>
        refine (hitem rest (hrest.trans h) (by omega)).bind (hforward rest) ?_
        intro a left hleft hlength
        exact (ih (hleft.trans (hrest.trans h)) (by omega) (by omega) (by omega)).map (a :: ·)

theorem follows_separated (hseparator : separator ≠ .eof) (hitem : r.Follows n item item')
    (hforward : Forward 1 item') :
    r.Follows n (Cursor.separated r.turns separator item) (Parse.separated separator item') := by
  intro us h hn
  refine (hitem us h hn).bind (hforward us) fun first rest hrest hlength => ?_
  have henough : rest.length < r.turns := Nat.lt_of_le_of_lt (hrest.trans h).length_le r.enough
  exact (followsOn_following hseparator hitem hforward (hrest.trans h) (by omega) henough
    le_rfl).map (first :: ·)

end lists

/-! ### Types -/

section types

variable {n : Nat} {type : Cursor TypeExpr}

/-- A token that is looked at and then taken, or not taken. -/
theorem Follows.checked {kind : TokenKind} {a b : Cursor α} {a' b' : Parse α} (hkind : kind ≠ .eof)
    (ha : r.Follows n a a') (hb : r.Follows n b b') :
    r.Follows n
      (do if ← Cursor.check kind then (do let _ ← Cursor.token kind; a) else b)
      (do if ← Parse.accept kind then a' else b') := by
  intro us h hlt
  rcases check_cases h kind hkind with ⟨t, rest, rfl, ht, hcheck⟩ | ⟨hne, hcheck⟩
  · have haccept : Parse.accept kind (t :: rest) = .ok true rest := if_pos ht
    have hrest : r.FollowsOn a a' rest :=
      ha rest ((List.suffix_cons t rest).trans h) (Nat.lt_of_succ_lt hlt)
    refine .look hcheck ?_
    rw [FollowsOn, Parse.bind_of_eq_ok haccept]
    exact (bind_of_eq (token_eq h ht)).trans hrest
  · refine .look hcheck ?_
    rw [FollowsOn, Parse.bind_of_eq_ok (accept_of_ne hne)]
    exact hb us h hlt

theorem follows_named (h : r.Follows n type Parse.type) (v : String) :
    r.Follows n (Cursor.named r.turns type v) (Parse.named Parse.type v) := by
  unfold Cursor.named Parse.named
  by_cases hv : v = "true" ∨ v = "false"
  · rw [if_pos hv, if_pos hv]
    exact follows_pure _
  · rw [if_neg hv, if_neg hv]
    refine .checked (by decide) ?_ (follows_pure _)
    exact (follows_separated (by decide) h Parse.unbounded.forward_type).andThen
      (forward_separated Parse.unbounded.forward_type .comma) fun _ =>
        (follows_token n (by decide)).map _

theorem follows_field (h : r.Follows n type Parse.type) :
    r.Follows n (Cursor.field type) (Parse.field Parse.type) :=
  (follows_key n).andThen forward_key fun _ =>
    (follows_accept n (by decide)).andThen (forward_accept .question) fun _ =>
      (follows_token n (by decide)).andThen (forward_token .colon) fun _ => h.map _

theorem follows_object (h : r.Follows n type Parse.type) :
    r.Follows n (do
      let fields ← Cursor.enclosed r.turns .rbrace (Cursor.field type) Cursor.fieldEnd
      return .ofShape (.object () fields)) (Parse.object Parse.type) :=
  (follows_enclosed (by decide) (follows_field h) Parse.unbounded.forward_field
    (follows_fieldEnd n) Parse.unbounded.forward_fieldEnd).map _

theorem follows_tuple (h : r.Follows n type Parse.type) :
    r.Follows n (do
      let items ← Cursor.enclosed r.turns .rbracket type (Cursor.commaOr .rbracket)
      return .ofShape (.tuple items)) (Parse.tuple Parse.type) :=
  (follows_enclosed (by decide) h Parse.unbounded.forward_type
    (follows_commaOr n (by decide)) (Parse.unbounded.forward_commaOr .rbracket)).map _

theorem argument_cons (type : Parse TypeExpr) (t : Token) (us : List Token) :
    Parse.argument type (t :: us) =
      if t.kind.isName ∧ nextKind us = .colon then Parse.labelled type t.value false (us.drop 1)
      else if t.kind.isName ∧ nextKind us = .question ∧ nextKind (us.drop 1) = .colon then
        Parse.labelled type t.value true (us.drop 2)
      else type (t :: us) := by
  cases us with
  | nil => simp [Parse.argument, nextKind]
  | cons u us => cases us <;> simp [Parse.argument, nextKind]

theorem atLabel_eq {t : Token} (h : t :: us <:+ r.body) :
    Cursor.atLabel r.tape (r.place (t :: us)) = some (.ok (t.kind.isName &&
      (nextKind us == .colon || nextKind us == .question && nextKind (us.drop 1) == .colon)),
      r.place (t :: us)) := by
  rw [Cursor.atLabel, bind_of_eq (atName_eq h), nextKind]
  cases t.kind.isName with
  | false => rfl
  | true =>
    refine (bind_of_eq (peek_eq h (Nat.succ_le_succ (Nat.zero_le _)))).trans ?_
    cases us with
    | nil => rfl
    | cons u us =>
      obtain ⟨kind, span, v⟩ := u
      cases kind with
      | question => exact bind_of_eq (peek_eq h (j := 2) (by simp))
      | _ => rfl

theorem follows_argument (h : r.Follows n type Parse.type) :
    r.Follows n (Cursor.argument type) (Parse.argument Parse.type) := by
  intro us hus hlt
  cases us with
  | nil =>
    have hlabel : Cursor.atLabel r.tape (r.place []) = some (.ok false, r.place []) :=
      bind_of_eq (atName_eq hus)
    exact .look hlabel (h [] hus hlt)
  | cons t us =>
    have hrest : us <:+ r.body := (List.suffix_cons t us).trans hus
    refine .look (atLabel_eq hus) ?_
    rw [FollowsOn, argument_cons]
    by_cases hcolon : t.kind.isName ∧ nextKind us = .colon
    · rw [if_pos hcolon, hcolon.1, hcolon.2]
      cases us with
      | nil => cases hcolon.2
      | cons u us =>
        have hne : nextKind (u :: us) ≠ .question := by
          rw [hcolon.2]
          decide
        refine (bind_of_eq (name_eq hus hcolon.1)).trans ?_
        refine (bind_of_eq (accept_eq_false hrest (by decide) hne)).trans ?_
        refine (bind_of_eq (token_eq hrest hcolon.2)).trans ?_
        refine (h.map (·.withLabel t.value false)) us ((List.suffix_cons u us).trans hrest) ?_
        simp only [List.length_cons] at hlt
        omega
    rw [if_neg hcolon]
    by_cases hquestion : t.kind.isName ∧ nextKind us = .question ∧ nextKind (us.drop 1) = .colon
    · rw [if_pos hquestion]
      obtain ⟨hname, hmark, hnext⟩ := hquestion
      rw [hname, hmark, hnext]
      cases us with
      | nil => cases hmark
      | cons u us =>
        cases us with
        | nil => cases hnext
        | cons v us =>
          have hrest' : v :: us <:+ r.body := (List.suffix_cons u _).trans hrest
          refine (bind_of_eq (name_eq hus hname)).trans ?_
          refine (bind_of_eq (accept_eq_true hrest hmark)).trans ?_
          refine (bind_of_eq (token_eq hrest' hnext)).trans ?_
          refine (h.map (·.withLabel t.value true)) us ((List.suffix_cons v us).trans hrest') ?_
          simp only [List.length_cons] at hlt
          omega
    · have hnone : (t.kind.isName && (nextKind us == .colon ||
          nextKind us == .question && nextKind (us.drop 1) == .colon)) = false := by
        rw [← Bool.not_eq_true]
        intro hlabel
        simp only [Bool.and_eq_true, Bool.or_eq_true, beq_iff_eq] at hlabel
        rcases hlabel with ⟨hname, hnext | hnext⟩
        · exact hcolon ⟨hname, hnext⟩
        · exact hquestion ⟨hname, hnext⟩
      rw [if_neg hquestion, hnone]
      exact h (t :: us) hus hlt

theorem follows_afterArguments (h : r.Follows n type Parse.type) (args : List TypeExpr) :
    r.Follows n (Cursor.afterArguments type args) (Parse.afterArguments Parse.type args) := by
  refine .checked (by decide) (h.map _) ?_
  cases args with
  | nil => exact follows_refuse .arrow
  | cons first others =>
    cases others with
    | nil =>
      dsimp only
      split
      · exact follows_pure first
      · exact follows_refuse .arrow
    | cons => exact follows_refuse .arrow

theorem follows_parenthesis (h : r.Follows n type Parse.type) :
    r.Follows n (do
      let args ← Cursor.enclosed r.turns .rparen (Cursor.argument type) (Cursor.commaOr .rparen)
      Cursor.afterArguments type args) (Parse.parenthesis Parse.type) :=
  (follows_enclosed (by decide) (follows_argument h) Parse.unbounded.forward_argument
    (follows_commaOr n (by decide)) (Parse.unbounded.forward_commaOr .rparen)).andThen
      (forward_enclosed Parse.unbounded.forward_argument (Parse.unbounded.forward_commaOr .rparen)
        .rparen) (follows_afterArguments h)

theorem follows_primary (h : r.Follows n type Parse.type) :
    r.Follows (n + 1) (Cursor.primary r.turns type) (Parse.primary Parse.type) := by
  intro us hus hlt
  refine .look (current_eq hus) ?_
  cases us with
  | nil =>
    simp only [List.head?_nil, Option.getD_none, r.kind_eof]
    exact followsOn_refuse hus .type
  | cons t us =>
    have hrest : us <:+ r.body := (List.suffix_cons t us).trans hus
    have hlength : us.length < n := Nat.lt_of_succ_lt_succ hlt
    obtain ⟨kind, span, v⟩ := t
    cases kind with
    | name => exact (bind_of_eq (advance_eq hus)).trans (follows_named h v us hrest hlength)
    | string | number => exact bind_of_eq (advance_eq hus)
    | lbrace => exact (bind_of_eq (token_eq hus rfl)).trans (follows_object h us hrest hlength)
    | lbracket => exact (bind_of_eq (token_eq hus rfl)).trans (follows_tuple h us hrest hlength)
    | lparen =>
      exact (bind_of_eq (token_eq hus rfl)).trans (follows_parenthesis h us hrest hlength)
    | _ => exact followsOn_refuse hus .type

/-- The types inside a type have at least one token less than the type itself. -/
theorem follows_typeOver (h : r.Follows n type Parse.type) :
    r.Follows (n + 1) (Cursor.typeOver r.turns type) Parse.type := by
  rw [Parse.type_eq]
  have hmember : r.Follows (n + 1)
      (do
        let members ← Cursor.separated r.turns .amp (Cursor.primary r.turns type)
        return Parse.intersectionOf members)
      (Parse.intersectionOf <$> Parse.separated .amp (Parse.primary Parse.type)) :=
    (follows_separated (by decide) (follows_primary h) Parse.unbounded.forward_primary).map _
  exact (follows_separated (by decide) hmember Parse.unbounded.forward_intersection).map _

theorem follows_typeWithin (n : Nat) : r.Follows n (Cursor.typeWithin r.turns n) Parse.type := by
  induction n with
  | zero => exact fun us _ hlt => absurd hlt (Nat.not_lt_zero _)
  | succ n ih => exact follows_typeOver ih

theorem follows_type : r.Follows r.turns (Cursor.type r.turns) Parse.type :=
  follows_typeWithin r.turns

end types

/-! ### Statements -/

section statements

variable (r)

theorem follows_importNames : r.Follows r.turns (do
      let _ ← Cursor.token .lbrace
      let names ← Cursor.enclosed r.turns .rbrace Cursor.name (Cursor.commaOr .rbrace)
      let _ ← Cursor.token .fromKeyword
      let dependency ← Cursor.token .string
      return .imports ⟨dependency.value, names.map .literal⟩) Parse.importNames :=
  (follows_token _ (by decide)).andThen (forward_token .lbrace) fun _ =>
    (follows_enclosed (by decide) (follows_name _) Parse.unbounded.forward_name
      (follows_commaOr _ (by decide)) (Parse.unbounded.forward_commaOr .rbrace)).andThen
      (forward_enclosed Parse.unbounded.forward_name (Parse.unbounded.forward_commaOr .rbrace)
        .rbrace) fun _ =>
        (follows_token _ (by decide)).andThen (forward_token .fromKeyword) fun _ =>
          (follows_token _ (by decide)).map _

theorem follows_params : r.Follows r.turns (Cursor.params r.turns) Parse.params := by
  refine (follows_accept _ (by decide)).andThen (forward_accept .less) fun found => ?_
  cases found with
  | false => exact follows_pure []
  | true =>
    exact (follows_separated (by decide) (follows_name _) Parse.unbounded.forward_name).andThen
      (forward_separated Parse.unbounded.forward_name .comma) fun _ =>
        (follows_token _ (by decide)).map _

theorem follows_declaration : r.Follows r.turns (do
      let name ← Cursor.name
      let params ← Cursor.params r.turns
      let _ ← Cursor.token .colon
      let type ← Cursor.type r.turns
      return .declares ⟨name, params, type⟩) Parse.declaration :=
  (follows_name _).andThen Parse.unbounded.forward_name fun _ =>
    r.follows_params.andThen (Parse.agree_self_iff.1 Parse.agree_params) fun _ =>
      (follows_token _ (by decide)).andThen (forward_token .colon) fun _ => r.follows_type.map _

theorem follows_assignment :
    r.Follows r.turns (Cursor.assignment r.turns) Parse.assignment :=
  (follows_name _).andThen Parse.unbounded.forward_name fun _ =>
    (follows_token _ (by decide)).andThen (forward_token .colon) fun _ => r.follows_type.map _

/-- A statement starts at a token that is there. -/
theorem followsOn_bareStatement {t : Token} (h : t :: us <:+ r.body) :
    r.FollowsOn (Cursor.bareStatement r.turns) Parse.bareStatement (t :: us) := by
  have hlt : (t :: us).length < r.turns := Nat.lt_of_le_of_lt h.length_le r.enough
  have hrest : us <:+ r.body := (List.suffix_cons t us).trans h
  have hnamed : (some (nextKind ((t :: us).drop 1)) == some TokenKind.colon) = false ↔
      nextKind us ≠ .colon := by simp
  refine .look (peek_eq h (Nat.succ_le_succ (Nat.zero_le _))) (.look (current_eq h) ?_)
  simp only [List.head?_cons, Option.getD_some, hnamed]
  by_cases himport : t.kind = .importKeyword ∧ nextKind us ≠ .colon
  · have heq : Parse.bareStatement (t :: us) = Parse.importNames us := if_pos himport
    rw [if_pos himport, FollowsOn, heq]
    exact (bind_of_eq (token_eq h himport.1)).trans
      (r.follows_importNames us hrest (Nat.lt_of_succ_lt hlt))
  by_cases htype : t.kind = .typeKeyword ∧ nextKind us ≠ .colon
  · have heq : Parse.bareStatement (t :: us) = Parse.declaration us :=
      (if_neg himport).trans (if_pos htype)
    rw [if_neg himport, if_pos htype, FollowsOn, heq]
    exact (bind_of_eq (token_eq h htype.1)).trans
      (r.follows_declaration us hrest (Nat.lt_of_succ_lt hlt))
  rw [if_neg himport, if_neg htype]
  refine .look (atName_eq h) ?_
  by_cases hname : t.kind.isName = true
  · have heq : Parse.bareStatement (t :: us) = Parse.assignment (t :: us) :=
      (if_neg himport).trans ((if_neg htype).trans (if_pos hname))
    rw [nextKind, if_pos hname, FollowsOn, heq]
    exact r.follows_assignment (t :: us) h hlt
  · have heq : Parse.bareStatement (t :: us) = .fail .statement (t :: us) :=
      (if_neg himport).trans ((if_neg htype).trans (if_neg hname))
    rw [nextKind, if_neg hname, FollowsOn, heq]
    exact followsOn_refuse h .statement

theorem followsOn_statement {t : Token} (h : t :: us <:+ r.body) :
    r.FollowsOn (Cursor.statement r.turns) Parse.statement (t :: us) :=
  (r.followsOn_bareStatement h).bind (Parse.agree_bareStatement _ _ le_rfl).passes
    fun s rest hrest _ =>
      ((follows_accept r.turns (by decide)).map fun _ => s) rest (hrest.trans h)
        (Nat.lt_of_le_of_lt (hrest.trans h).length_le r.enough)

/-! ### Headers -/

theorem startsStatement_eq {last t : Token} (h : last :: t :: us <:+ r.body) :
    Cursor.startsStatement r.tape (r.place (t :: us)) =
      some (.ok (Parse.startsStatement last.kind t.kind (nextKind us)), r.place (t :: us)) := by
  have hus : t :: us <:+ r.body := (List.suffix_cons last _).trans h
  have hpeek := peek_eq hus (j := 1) (Nat.succ_le_succ (Nat.zero_le _))
  refine (bind_of_eq (current_eq hus)).trans ?_
  obtain ⟨kind, span, v⟩ := t
  cases kind with
  | typeKeyword | importKeyword => exact bind_of_eq hpeek
  | name =>
    refine (bind_of_eq hpeek).trans ?_
    rw [List.drop_one, List.tail_cons, Parse.startsStatement]
    by_cases hcolon : nextKind us = .colon
    · rw [hcolon]
      exact bind_of_eq (previous_eq h)
    · rw [beq_false_of_ne hcolon, beq_false_of_ne fun heq => hcolon (Option.some.inj heq)]
      rfl
  | _ => rfl

/-- Behind the token `last`, the cursor goes to where reading goes on. -/
theorem resumeWithin_eq {last : Token} (h : last :: us <:+ r.body) {m : Nat} (hm : us.length < m) :
    Cursor.resumeWithin m r.tape (r.place us) =
      some (.ok (), r.place (Parse.resumeAfter last.kind us)) := by
  induction m generalizing us last with
  | zero => cases hm
  | succ m ih =>
    have hus : us <:+ r.body := (List.suffix_cons last us).trans h
    refine (bind_of_eq (atEnd_eq hus)).trans ?_
    cases us with
    | nil => rfl
    | cons t us =>
      refine (bind_of_eq (previous_eq h)).trans ?_
      by_cases hlast : last.kind = .semicolon
      · rw [if_pos hlast, Parse.resumeAfter, if_pos (.inl hlast)]
        rfl
      · rw [if_neg hlast]
        refine (bind_of_eq (r.startsStatement_eq h)).trans ?_
        rw [Parse.resumeAfter]
        by_cases hstarts : Parse.startsStatement last.kind t.kind (nextKind us) = true
        · rw [if_pos hstarts, if_pos (.inr hstarts)]
          rfl
        · rw [if_neg hstarts, if_neg fun hor => hor.elim hlast hstarts]
          exact (bind_of_eq (advance_eq hus)).trans (ih hus (Nat.lt_of_succ_lt_succ hm))

/-- At the end the cursor stays, whatever is before it. -/
theorem advance_nil : ∃ t, Cursor.advance r.tape (r.place []) = some (.ok t, r.place []) := by
  have hnil : [] <:+ r.body := List.nil_suffix
  have hsize := r.length_lt_size
  have hlt : min (r.place [] - 1) (r.tape.tokens.size - 1) < r.tape.tokens.size := by omega
  have hle : min (r.place [] - 1) (r.tape.tokens.size - 1) ≤ r.body.length := by
    have := place_add_le hnil (Nat.zero_le _)
    omega
  refine ⟨r.tape.tokens[min (r.place [] - 1) (r.tape.tokens.size - 1)], ?_⟩
  refine (bind_of_eq (atEnd_eq hnil)).trans ?_
  rw [List.isEmpty_nil, if_pos rfl, Cursor.previous, Cursor.tokenAt, if_pos (r.allowed _ hle),
    Array.getElem?_eq_getElem hlt]
  rfl

theorem resume_eq (h : us <:+ r.body) :
    Cursor.resume r.turns r.tape (r.place us) = some (.ok (), r.place (Parse.resume us)) := by
  have henough : us.length < r.turns := Nat.lt_of_le_of_lt h.length_le r.enough
  cases us with
  | nil =>
    obtain ⟨t, ht⟩ := r.advance_nil
    obtain ⟨m, hm⟩ : ∃ m, r.turns = m + 1 := ⟨r.turns - 1, by simp at henough; omega⟩
    refine (bind_of_eq ht).trans ?_
    rw [hm]
    exact bind_of_eq (atEnd_eq h)
  | cons t us =>
    exact (bind_of_eq (advance_eq h)).trans (r.resumeWithin_eq h (Nat.lt_of_succ_lt henough))

theorem statements_eq (h : us <:+ r.body) {m k : Nat} (hm : us.length < m) (hk : us.length ≤ k) :
    Cursor.statements r.turns m r.tape (r.place us) =
      some (.ok ((Parse.statements k us).map (Except.mapError (Parse.Failure.error r.eof))),
        r.place []) := by
  induction m generalizing k us with
  | zero => cases hm
  | succ m ih =>
    refine (bind_of_eq (atEnd_eq h)).trans ?_
    cases us with
    | nil => cases k <;> rfl
    | cons t us =>
      obtain ⟨k, rfl⟩ : ∃ j, k = j + 1 := ⟨k - 1, by simp at hk; omega⟩
      have hfollows := r.followsOn_statement h
      have hpasses := (Parse.agree_statement _ (t :: us) le_rfl).passes
      simp only [List.length_cons] at hm hk
      rw [Parse.statements, if_neg (by simp)]
      cases hs : Parse.statement (t :: us) with
      | ok s rest =>
        rw [hs] at hpasses
        have hrest : rest <:+ t :: us := hpasses.rest
        have hlt : rest.length < (t :: us).length := hpasses.taken s rest rfl
        rw [FollowsOn, hs] at hfollows
        have hattempt : Cursor.attempt (Cursor.statement r.turns) r.tape (r.place (t :: us)) =
            some (.ok (.ok s), r.place rest) := by
          rw [Cursor.attempt, hfollows]
          rfl
        simp only [List.length_cons] at hlt
        have hothers := ih (hrest.trans h) (k := k) (by omega) (by omega)
        exact (bind_of_eq hattempt).trans (bind_of_eq hothers)
      | fail expected stop =>
        rw [hs] at hpasses
        have hrest : stop <:+ t :: us := hpasses.rest
        have hstop : stop <:+ r.body := hrest.trans h
        have hlt := Parse.length_resume_lt (List.cons_ne_nil t us) hrest
        rw [FollowsOn, hs] at hfollows
        have hattempt : Cursor.attempt (Cursor.statement r.turns) r.tape (r.place (t :: us)) =
            some (.ok (.error (Parse.Failure.error r.eof ⟨expected, stop⟩)), r.place stop) := by
          rw [Cursor.attempt, hfollows]
          rfl
        simp only [List.length_cons] at hlt
        have hothers := ih ((Parse.resume_suffix stop).trans hstop) (k := k) (by omega) (by omega)
        exact (bind_of_eq hattempt).trans
          ((bind_of_eq (r.resume_eq hstop)).trans (bind_of_eq hothers))

end statements

end Reading

/-! ### All tokens of a header -/

theorem kind_eofToken (ts : List Token) : (eofToken ts).kind = .eof := by
  unfold eofToken
  split
  · rename_i t h
    simpa using List.find?_some h
  · rfl

theorem kind_ne_eof_of_mem {t : Token} {ts : List Token} (h : t ∈ beforeEof ts) :
    t.kind ≠ .eof := by
  simpa using List.mem_takeWhile_imp h

/-- The array of tokens begins with those before the first `eof`, and that `eof`. -/
theorem withEof_eq (ts : List Token) :
    ∃ others, withEof ts = beforeEof ts ++ eofToken ts :: others := by
  have hsplit : beforeEof ts ++ ts.dropWhile (·.kind ≠ .eof) = ts := List.takeWhile_append_dropWhile
  cases hrest : ts.dropWhile (·.kind ≠ .eof) with
  | nil =>
    rw [hrest, List.append_nil] at hsplit
    have hnone : ts.find? (·.kind = .eof) = none := by
      refine List.find?_eq_none.2 fun t ht => ?_
      rw [← hsplit] at ht
      simpa using kind_ne_eof_of_mem ht
    have hlast : ts.getLast?.map (·.kind) ≠ some .eof := by
      intro hlast
      obtain ⟨t, ht, hkind⟩ := Option.map_eq_some_iff.1 hlast
      have hmem := List.mem_of_getLast? ht
      rw [← hsplit] at hmem
      exact kind_ne_eof_of_mem hmem hkind
    refine ⟨[], ?_⟩
    rw [withEof, if_neg hlast, eofToken, hnone, hsplit]
  | cons t others =>
    have hkind : t.kind = .eof := by
      have hhead := List.head?_dropWhile_not (fun t : Token => t.kind ≠ .eof) ts
      rw [hrest] at hhead
      simpa using hhead
    have hfind : ts.find? (·.kind = .eof) = some t := by
      have hbefore : (beforeEof ts).find? (·.kind = .eof) = none :=
        List.find?_eq_none.2 fun t ht => by simpa using kind_ne_eof_of_mem ht
      rw [← hsplit, hrest, List.find?_append, hbefore]
      simp [hkind]
    have heof : eofToken ts = t := by rw [eofToken, hfind]
    rw [hrest] at hsplit
    rw [heof, withEof]
    split
    · exact ⟨others, hsplit.symm⟩
    · exact ⟨others ++ _, by rw [← List.cons_append, ← List.append_assoc, hsplit]⟩

theorem Header.ofTokens_eq_ofResults (ts : List Token) :
    ofTokens ts = ofResults ((Parse.statements (beforeEof ts).length (beforeEof ts)).map
      (Except.mapError (Parse.Failure.error (eofToken ts)))) := by
  rw [ofResults, List.filterMap_map, List.filterMap_map]
  refine congrArg₂ (fun (errors : List ParseError) statements =>
    if errors.isEmpty then Except.ok (Header.mk statements) else .error errors)
    (List.filterMap_congr fun x _ => ?_) (List.filterMap_congr fun x _ => ?_)
  all_goals cases x <;> rfl

/-- **The cursor reads what the lists read.**  If the places up to the first `eof` are allowed, and
loops may turn once more than there are tokens before it, then there is an outcome, it is the header
or the errors that the lists give, and the cursor is left at that `eof`. -/
theorem Header.readTokens_eq {allowed : Nat → Bool} {n : Nat} {ts : List Token}
    (hallowed : ∀ i ≤ (beforeEof ts).length, allowed i = true) (hn : (beforeEof ts).length < n) :
    readTokens allowed n ts = some (ofTokens ts, (beforeEof ts).length) := by
  obtain ⟨others, hothers⟩ := withEof_eq ts
  let r : Reading := {
    tape := ⟨(withEof ts).toArray, allowed⟩
    body := beforeEof ts
    eof := eofToken ts
    others := others
    tokens_eq := by rw [hothers]
    kind_body := fun _ => kind_ne_eof_of_mem
    kind_eof := kind_eofToken ts
    allowed := hallowed
    turns := n
    enough := hn }
  have hplace : r.place r.body = 0 := Nat.sub_self _
  have hstatements := r.statements_eq (List.suffix_refl r.body) r.enough le_rfl
  rw [hplace] at hstatements
  rw [readTokens, hstatements, ofTokens_eq_ofResults]
  rfl

end SigCheck
