import ComponentBrowser.Proofs.Yaml.Progress
import ComponentBrowser.Yaml.Event

/-!
# ComponentBrowser.Proofs.Yaml.Effort

Deriving the structure of a stream goes on: a goal is reached by taking a token
or by asking for lighter goals in its place.  So the effort that a derivation can
take falls with each of its rounds.

* `leaves_node` — a node takes a token, unless it is a sequence that is not
  indented;
* `leaves_reach` — a goal that is reached leaves less to do than itself;
* `loop?_round` — a derivation has as many rounds as it needs.
-/

namespace ComponentBrowser.Yaml.Derivation

variable {d d' : Derivation}

/-! ## effort -/

theorem one_le_weight (g : Goal) : 1 ≤ weight g := by
  unfold weight
  split
  all_goals decide

theorem effort_want (d : Derivation) (g : Goal) : (d.want g).effort = weight g + d.effort := rfl

theorem effort_emit (d : Derivation) (e : Event) : (d.emit e).effort = d.effort := rfl

theorem effort_emptyNode (d : Derivation) : d.emptyNode.effort = d.effort := rfl

theorem effort_onTo (d : Derivation) (tokens : List Token) :
    (d.onTo tokens).effort + 4 * d.tokens.length = d.effort + 4 * tokens.length := by
  simp only [effort, onTo]
  induction d.goals with
  | nil => simp only [List.foldr_nil]; omega
  | cons g goals ih => simp only [List.foldr_cons]; omega

/-- A token is worth four rounds. -/
theorem effort_onTo_le {rest : List Token} (h : rest.length < d.tokens.length) :
    (d.onTo rest).effort + 4 ≤ d.effort := by
  have htokens := d.effort_onTo rest
  omega

theorem length_tail_lt {t : Token} {rest : List Token} (h : d.tokens = t :: rest) :
    rest.length < d.tokens.length := by
  rw [h]
  exact Nat.lt_succ_self _

/-! ## nodes -/

theorem length_properties (tokens : List Token) :
    (properties tokens).2.length + (if (properties tokens).1.areGiven then 1 else 0) ≤
      tokens.length := by
  unfold properties
  split
  · exact Nat.le_succ _
  · exact Nat.le_succ _
  · exact Nat.le_refl _
  · exact Nat.le_refl _
  · exact Nat.le_refl _

/-- Content takes a token, unless it is a sequence that is not indented or there
are nothing but properties. -/
theorem leaves_content {entries : Bool} {found : Properties} {extra given : Nat}
    (hextra : entries = true → 4 ≤ extra) (hgiven : found.areGiven = true → 4 ≤ given)
    (d : Derivation) (block : Bool) (tag? : Option Bytes) :
    Leaves (fun d' => d'.effort + 3) (d.effort + extra + given)
      (d.content block entries found tag?) := by
  have hmissing (e : Event) : Leaves (fun d' => d'.effort + 3) (d.effort + extra + given)
      (if found.areGiven then .ok (d.emit e) else .error .unexpectedToken) := by
    refine leaves_ite (fun h => leaves_ok ?_) fun _ => leaves_error _
    have hle := hgiven h
    rw [effort_emit]
    omega
  -- a token is taken, and what it opens weighs no more than one round
  have htaken {t : Token} {rest : List Token} {d' : Derivation} (htokens : d.tokens = t :: rest)
      (h : d'.effort ≤ 1 + (d.onTo rest).effort) :
      Leaves (fun d' => d'.effort + 3) (d.effort + extra + given) (.ok d') := by
    have htail := effort_onTo_le (length_tail_lt htokens)
    refine leaves_ok ?_
    omega
  rw [content]
  split
  · refine leaves_ite (fun h => leaves_ok ?_) fun _ => hmissing _
    have hle := hextra h
    simp only [effort_want, effort_emit, weight]
    omega
  · next htokens => exact htaken htokens (Nat.le_add_left _ 1)
  · next htokens => exact htaken htokens (Nat.le_refl _)
  · next htokens => exact htaken htokens (Nat.le_refl _)
  · next htokens =>
      exact leaves_ite (fun _ => htaken htokens (Nat.le_refl _)) fun _ => hmissing _
  · next htokens =>
      exact leaves_ite (fun _ => htaken htokens (Nat.le_refl _)) fun _ => hmissing _
  · exact hmissing _

/-- **A node takes a token.**  Only a sequence that is not indented takes none and
is a goal in its place. -/
theorem leaves_node {entries : Bool} {extra : Nat} (hextra : entries = true → 4 ≤ extra)
    (d : Derivation) (block : Bool) :
    Leaves (fun d' => d'.effort + 3) (d.effort + extra) (d.node block entries) := by
  rw [node]
  split
  · next name rest htokens =>
      have htail := effort_onTo_le (length_tail_lt htokens)
      refine leaves_ok ?_
      rw [effort_emit]
      omega
  · have hproperties := length_properties d.tokens
    generalize properties d.tokens = read at hproperties
    obtain ⟨found, tokens⟩ := read
    have honTo := d.effort_onTo tokens
    dsimp only at hproperties ⊢
    cases d.expand found.tag? with
    | error fault => exact leaves_error fault
    | ok tag? =>
        have hgiven : found.areGiven = true → 4 ≤ if found.areGiven = true then 4 else 0 :=
          fun h => Nat.le_of_eq (if_pos h).symm
        refine (leaves_content hextra hgiven (d.onTo tokens) block tag?).mono ?_
        split at hproperties
        · next h =>
            rw [if_pos h]
            omega
        · next h =>
            rw [if_neg h]
            omega

/-- A node takes a token where sequences have to be indented. -/
theorem leaves_indented (d : Derivation) (block : Bool) :
    Leaves (fun d' => d'.effort + 3) d.effort (d.node block false) := by
  have hentries : false = true → 4 ≤ 0 := fun h => by contradiction
  exact leaves_node hentries d block

theorem leaves_nodeUnless (d : Derivation) (ends : Token → Bool) (block entries : Bool)
    (behind : Goal) :
    Leaves effort (d.effort + weight behind + 1) (d.nodeUnless ends block entries behind) := by
  have hnode : Leaves effort (d.effort + weight behind + 1)
      ((d.want behind).node block entries) := by
    intro d' hd'
    have hle : d'.effort + 3 ≤ (d.want behind).effort + 4 :=
      leaves_node (fun _ => Nat.le_refl 4) _ block d' hd'
    rw [effort_want] at hle
    omega
  rw [nodeUnless]
  split
  · refine leaves_ite (fun _ => leaves_ok ?_) fun _ => hnode
    rw [effort_emptyNode, effort_want]
    omega
  · exact hnode

/-! ## goals -/

/-- A comma between two entries is passed over. -/
theorem leaves_afterComma (first : Bool) (tokens : List Token) :
    Leaves List.length tokens.length (afterComma first tokens) := by
  unfold afterComma
  split
  · refine leaves_ok ?_
    split
    · exact Nat.le_refl _
    · exact Nat.le_succ _
  · exact leaves_ite (fun _ => leaves_ok (Nat.le_refl _)) fun _ => leaves_error _

section Goals

variable {g : Goal} {rest : List Token} (hrest : rest.length < d.tokens.length)
include hrest

/-- A goal that a token reaches. -/
theorem leaves_taken (h : d'.effort ≤ 3 + (d.onTo rest).effort) :
    Leaves (fun d' => d'.effort + 1) (d.effort + weight g) (.ok d') := by
  have htail := effort_onTo_le hrest
  refine leaves_ok ?_
  omega

/-- A goal that a token and a node behind it reach. -/
theorem leaves_taken_nodeUnless (ends : Token → Bool) (block entries : Bool) {behind : Goal}
    (h : weight behind ≤ 2) :
    Leaves (fun d' => d'.effort + 1) (d.effort + weight g)
      ((d.onTo rest).nodeUnless ends block entries behind) := by
  intro d' hd'
  have hle : d'.effort ≤ (d.onTo rest).effort + weight behind + 1 :=
    leaves_nodeUnless _ ends block entries behind d' hd'
  have htail := effort_onTo_le hrest
  dsimp only
  omega

end Goals

/-- A goal that a node reaches, and what is wanted behind it. -/
theorem leaves_wanted_node {g behind : Goal} {tokens : List Token}
    (htokens : tokens.length ≤ d.tokens.length) (h : weight behind ≤ 3) (block : Bool) :
    Leaves (fun d' => d'.effort + 1) (d.effort + weight g)
      (((d.onTo tokens).want behind).node block false) := by
  intro d' hd'
  have hle : d'.effort + 3 ≤ ((d.onTo tokens).want behind).effort :=
    leaves_indented _ block d' hd'
  have honTo := d.effort_onTo tokens
  have hweight := one_le_weight g
  rw [effort_want] at hle
  dsimp only
  omega

/-- **A goal that is reached leaves less to do than itself.** -/
theorem leaves_reach (d : Derivation) (g : Goal) :
    Leaves (fun d' => d'.effort + 1) (d.effort + weight g) (d.reach g) := by
  have hnode : Leaves (fun d' => d'.effort + 1) (d.effort + weight g) (d.node true false) := by
    intro d' hd'
    have hle : d'.effort + 3 ≤ d.effort := leaves_indented d true d' hd'
    dsimp only
    omega
  cases g with
  | streamEnd =>
      refine leaves_ite (fun _ => leaves_ok ?_) fun _ => leaves_error _
      have hall := d.effort_onTo []
      simp only [List.length_nil, weight] at hall ⊢
      omega
  | content =>
      rw [reach]
      split
      · exact leaves_ok (Nat.le_refl _)
      · exact leaves_ite (fun _ => leaves_ok (Nat.le_refl _)) fun _ => hnode
  | blockNode => exact hnode
  | blockEntries =>
      rw [reach]
      split
      · next htokens => exact leaves_taken_nodeUnless (length_tail_lt htokens) _ _ _ (by decide)
      · next htokens => exact leaves_taken (length_tail_lt htokens) (Nat.le_add_left _ 3)
      · exact leaves_error _
  | plainEntries =>
      rw [reach]
      split
      · next htokens => exact leaves_taken_nodeUnless (length_tail_lt htokens) _ _ _ (by decide)
      · exact leaves_ok (Nat.le_refl _)
  | blockKey =>
      rw [reach]
      split
      · next htokens => exact leaves_taken_nodeUnless (length_tail_lt htokens) _ _ _ (by decide)
      · next htokens => exact leaves_taken (length_tail_lt htokens) (Nat.le_add_left _ 3)
      · exact leaves_error _
  | blockValue =>
      rw [reach]
      split
      · next htokens => exact leaves_taken_nodeUnless (length_tail_lt htokens) _ _ _ (by decide)
      · refine leaves_ok ?_
        simp only [effort_emptyNode, effort_want, weight]
        omega
  | flowEntries first =>
      rw [reach]
      split
      · next htokens => exact leaves_taken (length_tail_lt htokens) (Nat.le_add_left _ 3)
      · refine (leaves_afterComma first d.tokens).bind fun tokens hle => ?_
        split
        · exact leaves_taken hle (Nat.add_le_add_right (by decide) _)
        · exact leaves_taken hle (Nat.le_add_left _ 3)
        · exact leaves_wanted_node hle (by decide) _
  | pairKey =>
      rw [reach]
      split
      · next htokens => exact leaves_taken (length_tail_lt htokens) (Nat.le_refl _)
      · next htokens => exact leaves_taken (length_tail_lt htokens) (Nat.le_refl _)
      · next htokens => exact leaves_taken (length_tail_lt htokens) (Nat.le_refl _)
      · exact leaves_wanted_node (Nat.le_refl d.tokens.length) (by decide) _
  | pairValue =>
      rw [reach]
      split
      · next htokens => exact leaves_taken_nodeUnless (length_tail_lt htokens) _ _ _ (by decide)
      · refine leaves_ok ?_
        simp only [effort_emptyNode, effort_want, weight]
        omega
  | pairEnd =>
      refine leaves_ok ?_
      simp only [effort_emit, effort_want, weight]
      omega
  | flowKey first =>
      rw [reach]
      split
      · next htokens => exact leaves_taken (length_tail_lt htokens) (Nat.le_add_left _ 3)
      · refine (leaves_afterComma first d.tokens).bind fun tokens hle => ?_
        split
        · exact leaves_taken_nodeUnless hle _ _ _ (by decide)
        · exact leaves_taken hle (Nat.le_add_left _ 3)
        · exact leaves_wanted_node hle (by decide) _
  | flowValue =>
      rw [reach]
      split
      · next htokens => exact leaves_taken_nodeUnless (length_tail_lt htokens) _ _ _ (by decide)
      · refine leaves_ok ?_
        simp only [effort_emptyNode, effort_want, weight]
        omega
  | flowNoValue =>
      refine leaves_ok ?_
      simp only [effort_emptyNode, effort_want, weight]
      omega

/-! ## rounds -/

/-- **A round leaves less to do.** -/
theorem effort_round_lt (h : d.round = .again d') : d'.effort < d.effort := by
  rw [round] at h
  split at h
  · contradiction
  · next g goals hgoals =>
      have hreached := leaves_reach { d with goals } g d' (Round.ofExcept_eq_again_iff.mp h)
      have heffort : d.effort = weight g + effort { d with goals } := by
        rw [effort, hgoals]
        rfl
      rw [heffort, Nat.add_comm]
      exact hreached

/-- **A derivation has as many rounds as it needs**, so that the events never
hang on their number. -/
theorem loop?_round (d : Derivation) : loop? round (d.effort + 1) d = some d.run :=
  loop?_eq_some_getD (fun _ _ => effort_round_lt) (Nat.lt_succ_self d.effort) _

end ComponentBrowser.Yaml.Derivation
