import ComponentBrowser.Yaml.Lexer

/-!
# ComponentBrowser.Proofs.Yaml.Progress

Reading tokens goes on: each token takes a character at least, so a lexer with a
round for each character comes to the end of its text or to a fault.

Every reader in the way of a token leaves the end of what it was given.  `Leaves`
says so of its result by how many characters are left, and is carried through
the readers in the order of their definitions.

* `leaves_token` — a token takes a character at least;
* `left_round_lt` — a round of the lexer makes the rest shorter;
* `loop?_round` — a lexer has as many rounds as it needs.
-/

namespace ComponentBrowser.Yaml

/-! ## what is left -/

section Leaves

variable {α β : Type} {size : α → Nat} {size' : β → Nat} {m n : Nat} {r : Except Fault α}

/-- What a reading leaves, if it succeeds, has a size of `n` at most. -/
def Leaves (size : α → Nat) (n : Nat) (r : Except Fault α) : Prop := ∀ x, r = .ok x → size x ≤ n

theorem leaves_ok {x : α} (h : size x ≤ n) : Leaves size n (.ok x) := by
  rintro y ⟨⟩
  exact h

theorem leaves_error (fault : Fault) : Leaves size n (.error fault) := nofun

theorem Leaves.mono (h : Leaves size m r) (hle : m ≤ n) : Leaves size n r :=
  fun x hx => Nat.le_trans (h x hx) hle

theorem Leaves.map (h : Leaves size m r) {f : α → β} (hf : ∀ x, size x ≤ m → size' (f x) ≤ n) :
    Leaves size' n (r.map f) := by
  cases r with
  | error fault => exact leaves_error fault
  | ok x => exact leaves_ok (hf x (h x rfl))

theorem Leaves.bind (h : Leaves size m r) {f : α → Except Fault β}
    (hf : ∀ x, size x ≤ m → Leaves size' n (f x)) : Leaves size' n (r >>= f) := by
  cases r with
  | error fault => exact leaves_error fault
  | ok x => exact hf x (h x rfl)

theorem leaves_ite {p : Prop} [Decidable p] {r' : Except Fault α} (h : p → Leaves size n r)
    (h' : ¬p → Leaves size n r') : Leaves size n (if p then r else r') := by
  split
  · next hp => exact h hp
  · next hp => exact h' hp

end Leaves

/-! ## places -/

/-- How many characters are left at a place. -/
def Cursor.left (c : Cursor) : Nat := c.rest.length

/-- How many characters are left behind what has been read. -/
def leftBehind {α : Type} (read : α × Cursor) : Nat := read.2.left

namespace Cursor

variable (c : Cursor)

theorem left_skip (n : Nat) : (c.skip n).left = c.left - n := List.length_drop

theorem left_skip_le (n : Nat) : (c.skip n).left ≤ c.left := by
  rw [left_skip]
  exact Nat.sub_le c.left n

theorem left_span_le (p : Char → Bool) : (c.span p).2.left ≤ c.left := c.left_skip_le _

theorem left_skipWhile_le (p : Char → Bool) : (c.skipWhile p).left ≤ c.left := c.left_span_le p

theorem left_skipToComment_le : c.skipToComment.left ≤ c.left := by
  rw [skipToComment]
  split
  · exact Nat.le_trans (left_skipWhile_le _ _) (c.left_skipWhile_le _)
  · exact c.left_skipWhile_le _

theorem left_skipBreak_le : c.skipBreak.left ≤ c.left := by
  obtain ⟨rest, p⟩ := c
  cases rest with
  | nil => exact Nat.le_refl 0
  | cons b rest =>
      change Cursor.left (if isBreak b = true then _ else _) ≤ _
      split
      · exact Nat.le_succ rest.length
      · exact Nat.le_refl _

end Cursor

/-! ## scalars -/

/-- How many characters are left behind a scalar. -/
def ScannedScalar.left (s : ScannedScalar) : Nat := s.behind.left

open ScannedScalar (left)

theorem leaves_plainFrom (inFlow : Bool) (indent : Nat) (text : List Char) (gap : Gap)
    (p : Position) (cs : List Char) :
    Leaves left cs.length (plainFrom inFlow indent text gap p cs) := by
  induction cs generalizing text gap p with
  | nil => exact leaves_ok (Nat.le_refl 0)
  | cons c rest ih =>
      rw [plainFrom]
      -- each way on passes over `c`, and so do the ends and faults
      repeat' split
      all_goals
        first
          | exact (ih _ _ _).mono (Nat.le_succ _)
          | exact leaves_ok (Nat.le_refl _)
          | exact leaves_error _

/-- A plain scalar takes the character that it begins with. -/
theorem leaves_scanPlain {inFlow : Bool} {c : Cursor} {first : Char} {rest : List Char}
    (hrest : c.rest = first :: rest) (h : Lexer.beginsPlain inFlow first rest = true)
    (indent : Nat) : Leaves left rest.length (scanPlain inFlow indent c) := by
  have hends : ¬((first = ':' ∧ endsToken rest = true) ∨
      (inFlow = true ∧ isFlowIndicator first = true)) := by
    rintro (⟨rfl, hends⟩ | ⟨rfl, hflow⟩)
    · simp [Lexer.beginsPlain, Lexer.isIndicator, hends] at h
    · have hdash : first ≠ '-' := by
        rintro rfl
        contradiction
      simp [Lexer.beginsPlain, Lexer.isIndicator, hflow, hdash] at h
  rw [scanPlain, hrest, plainFrom, if_neg hends]
  split
  · exact leaves_plainFrom _ _ _ _ _ rest
  · split
    · split
      · exact leaves_error _
      · exact leaves_plainFrom _ _ _ _ _ rest
    · -- nothing stands before the first character that it could end
      rw [if_neg (fun hgap => hgap.1 rfl)]
      split
      · exact leaves_error _
      · exact leaves_plainFrom _ _ _ _ _ rest

theorem leaves_singleFrom (quoteSeen : Bool) (text : List Char) (gap : Gap) (p : Position)
    (cs : List Char) : Leaves left cs.length (singleFrom quoteSeen text gap p cs) := by
  induction cs generalizing quoteSeen text gap p with
  | nil =>
      rw [singleFrom]
      split
      · exact leaves_ok (Nat.le_refl 0)
      · exact leaves_error _
  | cons c rest ih =>
      rw [singleFrom]
      repeat' split
      all_goals
        first
          | exact (ih _ _ _ _).mono (Nat.le_succ _)
          | exact leaves_ok (Nat.le_refl _)
          | exact leaves_error _

theorem leaves_doubleFrom (state : QuoteState) (text : List Char) (gap : Gap) (p : Position)
    (cs : List Char) : Leaves left cs.length (doubleFrom state text gap p cs) := by
  induction cs generalizing state text gap p with
  | nil => exact leaves_error .openQuote
  | cons c rest ih =>
      unfold doubleFrom
      dsimp only
      repeat' split
      all_goals
        first
          | exact (ih _ _ _ _).mono (Nat.le_succ _)
          | exact leaves_ok (Nat.le_succ _)
          | exact leaves_error _

theorem leaves_scanQuoted (double : Bool) (c : Cursor) :
    Leaves left (c.left - 1) (scanQuoted double c) := by
  rw [← c.left_skip 1, scanQuoted]
  split
  · exact leaves_doubleFrom _ _ _ _ _
  · exact leaves_singleFrom _ _ _ _ _

theorem leaves_blockFrom (folded : Bool) (chomping : Chomping) (least : Nat) (inLine : Bool)
    (s : BlockText) (p : Position) (cs : List Char) :
    Leaves left cs.length (blockFrom folded chomping least inLine s p cs) := by
  induction cs generalizing inLine s p with
  | nil => exact leaves_ok (Nat.le_refl 0)
  | cons c rest ih =>
      rw [blockFrom]
      dsimp only
      repeat' split
      all_goals
        first
          | exact (ih _ _ _).mono (Nat.le_succ _)
          | exact leaves_ok (Nat.le_refl _)
          | exact leaves_error _

theorem leaves_scanBlock (folded : Bool) (indent : Int) (c : Cursor) :
    Leaves left (c.left - 1) (scanBlock folded indent c) := by
  rw [← c.left_skip 1, scanBlock]
  generalize c.skip 1 = c
  dsimp only
  cases blockHeader c.rest with
  | error fault => exact leaves_error fault
  | ok header =>
      obtain ⟨chomping, increment?, length⟩ := header
      change Leaves left c.left (if _ then _ else _)
      split
      · refine (leaves_blockFrom _ _ _ _ _ _ _).mono ?_
        exact Nat.le_trans (Cursor.left_skipBreak_le _)
          (Nat.le_trans (Cursor.left_skipToComment_le _) (c.left_skip_le length))
      · exact leaves_error _

/-! ## tags and anchors -/

theorem leaves_suffixFrom (wide : Bool) (due : Nat) (bytes : Bytes) (p : Position)
    (cs : List Char) : Leaves leftBehind cs.length (suffixFrom wide due bytes p cs) := by
  fun_induction suffixFrom wide due bytes p cs
  all_goals
    first
      | exact leaves_error _
      | exact leaves_ok (Nat.le_refl _)
      | exact Leaves.mono ‹_› (by simp only [List.length_cons]; omega)

theorem leaves_scanSuffix (wide : Bool) (c : Cursor) :
    Leaves leftBehind c.left (scanSuffix wide c) := leaves_suffixFrom _ _ _ _ _

theorem leaves_scanHandle (c : Cursor) : Leaves leftBehind (c.left - 1) (scanHandle c) := by
  rw [scanHandle]
  split
  · dsimp only
    have hname := (c.skip 1).left_span_le isNameChar
    rw [c.left_skip] at hname
    split
    · exact leaves_ok (Nat.le_trans (Cursor.left_skip_le _ 1) hname)
    · exact leaves_ok hname
  · exact leaves_error _

theorem leaves_scanCompleteTag (c : Cursor) :
    Leaves leftBehind (c.left - 1) (scanCompleteTag c) := by
  refine (leaves_scanSuffix true (c.skip 2)).bind fun ⟨suffix, c'⟩ h => ?_
  rw [c.left_skip] at h
  dsimp only
  split
  · exact leaves_ok (Nat.le_trans (c'.left_skip_le 1) (Nat.le_trans h (by omega)))
  · exact leaves_error _

theorem leaves_scanShortTag (c : Cursor) : Leaves leftBehind (c.left - 1) (scanShortTag c) := by
  refine (leaves_scanHandle c).bind fun ⟨handle, c'⟩ h => ?_
  refine (leaves_scanSuffix false c').bind fun ⟨suffix, c''⟩ h' => ?_
  have hle : c''.left ≤ c.left - 1 := Nat.le_trans h' h
  dsimp only
  split
  · split
    · exact leaves_error _
    · exact leaves_ok hle
  · exact leaves_ok hle

theorem leaves_scanTag (inFlow : Bool) (c : Cursor) :
    Leaves leftBehind (c.left - 1) (scanTag inFlow c) := by
  have hends : ∀ read : Token × Cursor, leftBehind read ≤ c.left - 1 →
      Leaves leftBehind (c.left - 1)
        (if endsToken read.2.rest = true ∨ (inFlow = true ∧ read.2.rest.head? = some ',') then
          .ok (read.1, read.2) else .error .badTag) := by
    intro read h
    split
    · exact leaves_ok h
    · exact leaves_error _
  rw [scanTag]
  split
  · exact (leaves_scanCompleteTag c).bind hends
  · exact (leaves_scanShortTag c).bind hends

theorem leaves_scanAnchorName (c : Cursor) :
    Leaves leftBehind (c.left - 1) (scanAnchorName c) := by
  rw [scanAnchorName]
  dsimp only
  split
  · have hname := (c.skip 1).left_span_le isNameChar
    rw [c.left_skip] at hname
    exact leaves_ok hname
  · exact leaves_error _

/-! ## directives -/

theorem leaves_scanVersionPart (c : Cursor) : Leaves leftBehind c.left (scanVersionPart c) := by
  rw [scanVersionPart]
  dsimp only
  split
  · exact leaves_ok (c.left_span_le _)
  · exact leaves_error _

theorem leaves_scanVersion (c : Cursor) : Leaves leftBehind c.left (scanVersion c) := by
  refine (leaves_scanVersionPart _).bind fun ⟨major, c'⟩ h => ?_
  have hmajor : c'.left ≤ c.left := Nat.le_trans h (c.left_skipWhile_le _)
  dsimp only
  split
  · refine (leaves_scanVersionPart _).bind fun ⟨minor, c''⟩ h' => ?_
    exact leaves_ok (Nat.le_trans h' (Nat.le_trans (c'.left_skip_le 1) hmajor))
  · exact leaves_error _

theorem leaves_scanTagHandle (c : Cursor) : Leaves leftBehind c.left (scanTagHandle c) := by
  refine (leaves_scanHandle _).bind fun ⟨handle, c'⟩ h => ?_
  have hhandle : c'.left ≤ c.left :=
    Nat.le_trans h (Nat.le_trans (Nat.sub_le _ 1) (c.left_skipWhile_le _))
  dsimp only
  split
  · refine (leaves_scanSuffix true _).bind fun ⟨start, c''⟩ h' => ?_
    dsimp only
    split
    · exact leaves_ok (Nat.le_trans h' (Nat.le_trans (c'.left_skipWhile_le _) hhandle))
    · exact leaves_error _
  · exact leaves_error _

theorem leaves_scanDirective (c : Cursor) :
    Leaves leftBehind (c.left - 1) (scanDirective c) := by
  have hname := (c.skip 1).left_span_le isNameChar
  rw [c.left_skip] at hname
  rw [scanDirective]
  generalize (c.skip 1).span isNameChar = named at hname
  obtain ⟨name, c'⟩ := named
  have hends : ∀ read : Token × Cursor, leftBehind read ≤ c'.left →
      Leaves leftBehind (c.left - 1)
        (if (read.2.skipToComment.rest.head?.map isBreak).getD true = true then
          .ok (read.1, read.2.skipToComment.skipBreak) else .error .badDirective) := by
    intro read h
    split
    · exact leaves_ok (Nat.le_trans (Cursor.left_skipBreak_le _)
        (Nat.le_trans (Cursor.left_skipToComment_le _) (Nat.le_trans h hname)))
    · exact leaves_error _
  dsimp only
  split
  · exact leaves_error _
  · split
    · exact (leaves_scanVersion c').bind hends
    · split
      · exact (leaves_scanTagHandle c').bind hends
      · exact leaves_error _

namespace Lexer

variable {l l' : Lexer} {n : Nat}

/-- How many characters are left to a lexer. -/
def left (l : Lexer) : Nat := l.cursor.left

/-! ## lexers that stay where they are -/

theorem cursor_indentTo (l : Lexer) (column number : Nat) (opening : Token) :
    (l.indentTo column number opening).cursor = l.cursor := by
  rw [indentTo]
  split
  · rfl
  · rfl

theorem cursor_closeBlocks (l : Lexer) (column : Int) (outer : List Int) :
    (l.closeBlocks column outer).cursor = l.cursor := by
  induction outer generalizing l with
  | nil => rfl
  | cons around rest ih =>
      rw [closeBlocks]
      split
      · exact ih _
      · rfl

theorem cursor_dedentTo (l : Lexer) (column : Int) : (l.dedentTo column).cursor = l.cursor := by
  rw [dedentTo]
  split
  · rfl
  · exact l.cursor_closeBlocks column l.outer

theorem cursor_of_dropCandidate (h : l.dropCandidate = .ok l') : l'.cursor = l.cursor := by
  rw [dropCandidate] at h
  split at h
  · split at h
    · contradiction
    · injection h with h
      rw [← h]
  · injection h with h
    rw [h]

theorem cursor_of_map_dropCandidate {f : Lexer → Lexer}
    (h : l.dropCandidate.map f = .ok l') (hf : ∀ l, (f l).cursor = l.cursor) :
    l'.cursor = l.cursor := by
  cases hdrop : l.dropCandidate with
  | error fault =>
      rw [hdrop] at h
      contradiction
  | ok k =>
      rw [hdrop] at h
      injection h with h
      rw [← h, hf, cursor_of_dropCandidate hdrop]

theorem cursor_of_noteCandidate (h : l.noteCandidate = .ok l') : l'.cursor = l.cursor := by
  rw [noteCandidate] at h
  split at h
  · exact cursor_of_map_dropCandidate h fun _ => rfl
  · injection h with h
    rw [h]

theorem cursor_of_freshen (h : l.freshen = .ok l') : l'.cursor = l.cursor := by
  rw [freshen] at h
  split at h
  · split at h
    · exact cursor_of_dropCandidate h
    · injection h with h
      rw [h]
  · injection h with h
    rw [h]

theorem cursor_of_documentBoundary (h : l.documentBoundary = .ok l') : l'.cursor = l.cursor := by
  rw [← l.cursor_dedentTo (-1)]
  exact cursor_of_map_dropCandidate h fun _ => rfl

/-! ## tokens -/

/-- A lexer that stays passes over the characters of a token. -/
theorem leaves_map_of_stays {r : Except Fault Lexer} (h : ∀ k, r = .ok k → k.cursor = l.cursor)
    {f : Lexer → Lexer} (hf : ∀ k, (f k).left ≤ k.left - 1) : Leaves left (l.left - 1) (r.map f) := by
  cases r with
  | error fault => exact leaves_error fault
  | ok k =>
      have hleft : k.left = l.left := congrArg Cursor.left (h k rfl)
      refine leaves_ok ?_
      rw [← hleft]
      exact hf k

theorem left_emitOver_le (l : Lexer) (t : Token) {length : Nat} (h : 1 ≤ length) :
    (l.emitOver t length).left ≤ l.left - 1 := by
  have hskip : (l.emitOver t length).left = l.left - length := l.cursor.left_skip length
  omega

theorem leaves_openFlow (t : Token) : Leaves left (l.left - 1) (l.openFlow t) :=
  leaves_map_of_stays (fun _ => cursor_of_noteCandidate)
    fun k => k.left_emitOver_le t (Nat.le_refl 1)

theorem leaves_closeFlow (t : Token) : Leaves left (l.left - 1) (l.closeFlow t) := by
  refine leaves_map_of_stays (fun _ => cursor_of_dropCandidate) fun k => ?_
  have hover := k.left_emitOver_le t (Nat.le_refl 1)
  dsimp only
  split
  · exact hover
  · exact hover

theorem leaves_blockEntry : Leaves left (l.left - 1) l.blockEntry := by
  rw [blockEntry]
  split
  · refine leaves_map_of_stays (fun k hk => ?_) fun k => k.left_emitOver_le .blockEntry (Nat.le_refl 1)
    rw [cursor_of_dropCandidate hk, cursor_indentTo]
  · exact leaves_error _

theorem leaves_complexKey : Leaves left (l.left - 1) l.complexKey := by
  rw [complexKey]
  split
  · refine leaves_map_of_stays (fun k hk => ?_) fun k => k.left_emitOver_le .key (Nat.le_refl 1)
    rw [cursor_of_dropCandidate hk, cursor_indentTo]
  · exact leaves_error _

theorem leaves_value : Leaves left (l.left - 1) l.value := by
  have hover : ∀ k : Lexer, k.cursor = l.cursor → (k.emitOver .value 1).left ≤ l.left - 1 := by
    intro k hk
    have hleft : k.left = l.left := congrArg Cursor.left hk
    rw [← hleft]
    exact k.left_emitOver_le _ (Nat.le_refl 1)
  rw [value]
  split
  · exact leaves_ok (hover _ (cursor_indentTo _ _ _ _))
  · split
    · exact leaves_ok (hover _ (cursor_indentTo _ _ _ _))
    · exact leaves_error _

theorem leaves_property {scan : Cursor → Except Fault (Token × Cursor)}
    (h : Leaves leftBehind n (scan l.cursor)) : Leaves left n (l.property scan) := by
  rw [property]
  cases hnote : l.noteCandidate with
  | error fault => exact leaves_error fault
  | ok k =>
      rw [← cursor_of_noteCandidate hnote] at h
      exact h.bind fun _ hread => leaves_ok hread

theorem leaves_scalar {scan : Cursor → Except Fault ScannedScalar} (style : Style)
    (h : Leaves ScannedScalar.left n (scan l.cursor)) : Leaves left n (l.scalar style scan) := by
  rw [scalar]
  cases hnote : l.noteCandidate with
  | error fault => exact leaves_error fault
  | ok k =>
      rw [← cursor_of_noteCandidate hnote] at h
      exact h.bind fun _ hread => leaves_ok hread

theorem leaves_blockScalar (style : Style) : Leaves left (l.left - 1) (l.blockScalar style) := by
  rw [blockScalar]
  cases hdrop : l.dropCandidate with
  | error fault => exact leaves_error fault
  | ok k =>
      have hleft : k.left = l.left := congrArg Cursor.left (cursor_of_dropCandidate hdrop)
      rw [← hleft]
      exact (leaves_scanBlock _ _ k.cursor).bind fun _ hread => leaves_ok hread

theorem leaves_mark (t : Token) :
    Leaves left (l.left - 1) (l.documentBoundary.map (·.emitOver t 3)) :=
  leaves_map_of_stays (fun _ => cursor_of_documentBoundary)
    fun k => k.left_emitOver_le t (by decide)

theorem leaves_comma :
    Leaves left (l.left - 1)
      (l.dropCandidate.map fun l => { l.emitOver .flowEntry 1 with keyAllowed := true }) :=
  leaves_map_of_stays (fun _ => cursor_of_dropCandidate)
    fun k => k.left_emitOver_le .flowEntry (Nat.le_refl 1)

theorem leaves_directive :
    Leaves left (l.left - 1) (do
      let l ← l.documentBoundary
      let (t, cursor) ← scanDirective l.cursor
      pure { l.emit t with cursor }) := by
  cases hboundary : l.documentBoundary with
  | error fault => exact leaves_error fault
  | ok k =>
      have hleft : k.left = l.left := congrArg Cursor.left (cursor_of_documentBoundary hboundary)
      rw [← hleft]
      exact (leaves_scanDirective k.cursor).bind fun _ hread => leaves_ok hread

theorem leaves_name (make : String → Token) (c : Cursor) :
    Leaves leftBehind (c.left - 1)
      ((scanAnchorName c).map fun (name, c) => (make name, c)) :=
  (leaves_scanAnchorName c).map fun _ hread => hread

/-- **A token takes a character** at least. -/
theorem leaves_token {c : Char} {rest : List Char} (hrest : l.cursor.rest = c :: rest) :
    Leaves left rest.length (l.token c rest) := by
  have hleft : l.left - 1 = rest.length := by
    rw [left, Cursor.left, hrest, List.length_cons, Nat.add_sub_cancel]
  have hplain (h : beginsPlain l.inFlow c rest = true) :
      Leaves left (l.left - 1) (l.scalar .plain (scanPlain l.inFlow (l.indent + 1).toNat)) := by
    rw [hleft]
    exact leaves_scalar _ (leaves_scanPlain hrest h _)
  rw [token, ← hleft]
  refine leaves_ite (fun _ => leaves_directive) fun _ => ?_
  refine leaves_ite (fun _ => leaves_mark .documentStart) fun _ => ?_
  refine leaves_ite (fun _ => leaves_mark .documentEnd) fun _ => ?_
  refine leaves_ite (fun _ => leaves_openFlow _) fun _ => ?_
  refine leaves_ite (fun _ => leaves_openFlow _) fun _ => ?_
  refine leaves_ite (fun _ => leaves_closeFlow _) fun _ => ?_
  refine leaves_ite (fun _ => leaves_closeFlow _) fun _ => ?_
  refine leaves_ite (fun _ => leaves_comma) fun _ => ?_
  refine leaves_ite (fun _ => leaves_blockEntry) fun _ => ?_
  refine leaves_ite (fun _ => leaves_complexKey) fun _ => ?_
  refine leaves_ite (fun _ => leaves_value) fun _ => ?_
  refine leaves_ite (fun _ => leaves_property (leaves_name _ _)) fun _ => ?_
  refine leaves_ite (fun _ => leaves_property (leaves_name _ _)) fun _ => ?_
  refine leaves_ite (fun _ => leaves_property (leaves_scanTag _ _)) fun _ => ?_
  refine leaves_ite (fun _ => leaves_blockScalar _) fun _ => ?_
  refine leaves_ite (fun _ => leaves_blockScalar _) fun _ => ?_
  refine leaves_ite (fun _ => leaves_scalar _ (leaves_scanQuoted _ _)) fun _ => ?_
  refine leaves_ite (fun _ => leaves_scalar _ (leaves_scanQuoted _ _)) fun _ => ?_
  exact leaves_ite hplain fun _ => leaves_error _

/-! ## rounds -/

theorem left_skipSpace_le (inFlow inComment keyAllowed : Bool) (p : Position) (cs : List Char) :
    (skipSpace inFlow inComment keyAllowed p cs).1.left ≤ cs.length := by
  induction cs generalizing inComment keyAllowed p with
  | nil => exact Nat.le_refl 0
  | cons c rest ih =>
      rw [skipSpace]
      repeat' split
      all_goals
        first
          | exact Nat.le_trans (ih _ _ _) (Nat.le_succ _)
          | exact Nat.le_refl _

theorem leaves_approach (l : Lexer) : Leaves left l.left l.approach := by
  have hspace := left_skipSpace_le l.inFlow false l.keyAllowed l.cursor.position l.cursor.rest
  rw [approach]
  generalize skipSpace l.inFlow false l.keyAllowed l.cursor.position l.cursor.rest = space at hspace
  intro k hk
  dsimp only at hk
  cases hfreshen : freshen { l with cursor := space.1, keyAllowed := space.2 } with
  | error fault =>
      rw [hfreshen] at hk
      contradiction
  | ok k' =>
      rw [hfreshen] at hk
      injection hk with hk
      have hcursor : k.cursor = space.1 := by
        rw [← hk, cursor_dedentTo, cursor_of_freshen hfreshen]
      rw [left, hcursor]
      exact hspace

/-- **A round makes the rest shorter.** -/
theorem left_round_lt (h : l.round = .again l') : l'.left < l.left := by
  rw [round] at h
  cases happroach : l.approach with
  | error fault =>
      rw [happroach] at h
      contradiction
  | ok k =>
      have hk := leaves_approach l k happroach
      rw [happroach] at h
      dsimp only at h
      split at h
      · contradiction
      · next c rest hrest =>
          have hread := leaves_token hrest l' (Round.ofExcept_eq_again_iff.mp h)
          have hleft : k.left = rest.length + 1 := congrArg List.length hrest
          omega

/-- **A lexer has as many rounds as it needs**, so that what it reads never hangs
on their number. -/
theorem loop?_round (l : Lexer) : loop? round (l.cursor.rest.length + 1) l = some l.run :=
  loop?_eq_some_getD (fun _ _ => left_round_lt) (Nat.lt_succ_self l.left) _

end Lexer

end ComponentBrowser.Yaml
