import ComponentBrowser.Text.Utf8

/-!
# ComponentBrowser.Proofs.Text.Segments

How many bytes a segment takes.  At best a decoder finishes a segment with
every byte, at worst with every fourth, and what it has finished it never takes
back.  So the first `n` characters of the lenient reading hang on the first
`4 * n` bytes alone, well-formed or not.

* `Decoder.Paced.feed`, `Decoder.Paced.run` — the bounds, kept by one byte and by many;
* `length_decode_le` — there are no more characters than bytes;
* `take_decode_congr` — the first characters are settled by the first bytes.
-/

namespace ComponentBrowser.Utf8

open Decoder

/-! ## the pace of a decoder -/

/-- The bytes of the sequence that is still open. -/
def Decoder.openBytes (d : Decoder) : Bytes := (d.pending.map Partial.seen).getD []

/-- A decoder has read some number of bytes, one to four for each finished
segment and the rest for the open sequence, which may still take all that it
misses without passing four. -/
structure Decoder.Paced (d : Decoder) (count : Nat) : Prop where
  finished_le : d.finished.length + d.openBytes.length ≤ count
  le_finished : count ≤ 4 * d.finished.length + d.openBytes.length
  fits : ∀ p ∈ d.pending, 0 < p.seen.length ∧ 0 < p.missing ∧ p.seen.length + p.missing ≤ 4

@[simp] theorem Decoder.openBytes_none (finished : List Segment) :
    openBytes ⟨finished, none⟩ = [] := rfl

@[simp] theorem Decoder.openBytes_some (finished : List Segment) (p : Partial) :
    openBytes ⟨finished, some p⟩ = p.seen := rfl

variable {d : Decoder} {finished : List Segment} {count : Nat}

/-- The bounds where nothing is open. -/
theorem paced_closed (hlow : finished.length ≤ count) (hhigh : count ≤ 4 * finished.length) :
    Paced ⟨finished, none⟩ count where
  finished_le := hlow
  le_finished := hhigh
  fits _ hp := nomatch hp

/-- The bounds where a sequence is open. -/
theorem paced_open {p : Partial} (hlow : finished.length + p.seen.length ≤ count)
    (hhigh : count ≤ 4 * finished.length + p.seen.length)
    (hfits : 0 < p.seen.length ∧ 0 < p.missing ∧ p.seen.length + p.missing ≤ 4) :
    Paced ⟨finished, some p⟩ count where
  finished_le := hlow
  le_finished := hhigh
  fits := by
    rintro q ⟨⟩
    exact hfits

/-- A lead byte stands alone and misses up to three bytes. -/
theorem seen_of_lead? {b : UInt8} {p : Partial} (h : lead? b = some p) :
    p.seen = [b] ∧ 0 < p.missing ∧ p.missing ≤ 3 := by
  unfold lead? at h
  repeat' split at h
  all_goals simp only [Option.some.injEq, reduceCtorEq] at h
  all_goals
    subst h
    simp

theorem paced_start (hlow : finished.length ≤ count) (hhigh : count ≤ 4 * finished.length)
    (b : UInt8) : (start finished b).Paced (count + 1) := by
  unfold start
  split
  · apply paced_closed <;> rw [List.length_cons] <;> omega
  · split
    · next p hlead =>
        obtain ⟨hseen, hmissing, hmost⟩ := seen_of_lead? hlead
        apply paced_open <;> rw [hseen, List.length_singleton] <;> omega
    · apply paced_closed <;> rw [List.length_cons] <;> omega

/-- **One byte** keeps the pace. -/
theorem Decoder.Paced.feed (h : d.Paced count) (b : UInt8) :
    (d.feed b).Paced (count + 1) := by
  obtain ⟨finished, pending⟩ := d
  obtain ⟨hlow, hhigh, hfits⟩ := h
  cases pending with
  | none => exact paced_start hlow hhigh b
  | some p =>
      obtain ⟨hseen, hmissing, hfour⟩ := hfits p rfl
      simp only [openBytes_some] at hlow hhigh
      unfold Decoder.feed
      dsimp only
      split
      · split
        · -- the byte completes the sequence, which had three bytes at most
          apply paced_closed <;> rw [List.length_cons] <;> omega
        · apply paced_open <;> simp only [List.length_append, List.length_singleton] <;> omega
      · -- the sequence is broken off, and the byte is read afresh
        apply paced_start <;> rw [List.length_cons] <;> omega

/-- **A run** keeps the pace. -/
theorem Decoder.Paced.run (h : d.Paced count) (bytes : Bytes) :
    (Utf8.run d bytes).Paced (count + bytes.length) := by
  induction bytes generalizing d count with
  | nil => exact h
  | cons b bytes ih =>
      have hrest := ih (h.feed b)
      rw [Nat.add_assoc, Nat.add_comm 1] at hrest
      exact hrest

theorem paced_run_empty (bytes : Bytes) : (run .empty bytes).Paced bytes.length := by
  have hempty : Decoder.empty.Paced 0 := paced_closed (Nat.le_refl 0) (Nat.le_refl 0)
  have h := hempty.run bytes
  rwa [Nat.zero_add] at h

/-! ## no more characters than bytes -/

theorem Decoder.Paced.length_finish_le (h : d.Paced count) : d.finish.length ≤ count := by
  obtain ⟨finished, pending⟩ := d
  obtain ⟨hlow, -, hfits⟩ := h
  cases pending with
  | none =>
      rw [finish, List.length_reverse]
      exact hlow
  | some p =>
      have hseen := (hfits p rfl).1
      simp only [openBytes_some] at hlow
      simp only [finish, List.length_reverse, List.length_cons]
      omega

theorem length_decode_le (bytes : Bytes) : (decode bytes).length ≤ bytes.length := by
  rw [decode, List.length_map]
  exact (paced_run_empty bytes).length_finish_le

/-! ## what is finished stays -/

theorem finished_suffix_start (finished : List Segment) (b : UInt8) :
    finished <:+ (start finished b).finished := by
  unfold start
  split
  · exact List.suffix_cons _ _
  · split
    · exact List.suffix_refl _
    · exact List.suffix_cons _ _

theorem finished_suffix_feed (d : Decoder) (b : UInt8) : d.finished <:+ (d.feed b).finished := by
  unfold feed
  split
  · exact finished_suffix_start _ b
  · dsimp only
    split
    · split
      · exact List.suffix_cons _ _
      · exact List.suffix_refl _
    · exact (List.suffix_cons _ _).trans (finished_suffix_start _ b)

theorem finished_suffix_run (d : Decoder) (bytes : Bytes) :
    d.finished <:+ (run d bytes).finished := by
  induction bytes generalizing d with
  | nil => exact List.suffix_refl _
  | cons b bytes ih => exact (finished_suffix_feed d b).trans (ih (d.feed b))

theorem reverse_finished_prefix_finish (d : Decoder) : d.finished.reverse <+: d.finish := by
  unfold finish
  split
  · exact List.prefix_refl _
  · exact List.reverse_prefix.mpr (List.suffix_cons _ _)

/-- The segments that some bytes finish are the first ones, whatever follows. -/
theorem take_segments_append {xs : Bytes} {n : Nat} (h : n ≤ (run .empty xs).finished.length)
    (ys : Bytes) : (segments (xs ++ ys)).take n = (run .empty xs).finished.reverse.take n := by
  have hstays := List.reverse_prefix.mpr (finished_suffix_run (run .empty xs) ys)
  obtain ⟨rest, hrest⟩ := hstays.trans (reverse_finished_prefix_finish _)
  rw [segments_append, ← hrest, List.take_append_of_le_length (by rwa [List.length_reverse])]

/-! ## the first characters -/

theorem Decoder.Paced.length_openBytes_le (h : d.Paced count) : d.openBytes.length ≤ 3 := by
  obtain ⟨finished, pending⟩ := d
  cases pending with
  | none => exact Nat.zero_le 3
  | some p =>
      obtain ⟨-, hmissing, hfour⟩ := h.fits p rfl
      rw [openBytes_some]
      omega

/-- Four bytes for each segment finish them all. -/
theorem le_length_finished {bytes : Bytes} {n : Nat} (h : 4 * n ≤ bytes.length) :
    n ≤ (run .empty bytes).finished.length := by
  have hpaced := paced_run_empty bytes
  have hread := hpaced.le_finished
  have hopen := hpaced.length_openBytes_le
  omega

/-- The first segments are those of the first bytes. -/
theorem take_segments_take (bytes : Bytes) (n : Nat) :
    (segments (bytes.take (4 * n))).take n = (segments bytes).take n := by
  rcases Nat.le_total bytes.length (4 * n) with hshort | hlong
  · rw [List.take_of_length_le hshort]
  · have hfinished : n ≤ (run .empty (bytes.take (4 * n))).finished.length :=
      le_length_finished (by rw [List.length_take]; omega)
    have hwhole := take_segments_append hfinished (bytes.drop (4 * n))
    have hfront := take_segments_append hfinished []
    rw [List.take_append_drop] at hwhole
    rw [List.append_nil] at hfront
    rw [hwhole, hfront]

/-- **The first characters are settled by the first bytes**, four for each:
what stands behind them makes no difference, not even to a sequence that they
break off. -/
theorem take_decode_congr {xs ys : Bytes} {n : Nat} (h : xs.take (4 * n) = ys.take (4 * n)) :
    (decode xs).take n = (decode ys).take n := by
  rw [decode, decode, ← List.map_take, ← List.map_take, ← take_segments_take xs, h,
    take_segments_take ys]

end ComponentBrowser.Utf8
