import ComponentBrowser.Files.Tree

/-!
# ComponentBrowser.Proofs.Files.Walk

Walks through a file tree, taken apart.  A walk along names is a walk along the
first of them and, from where that ends, along the others; links on the way
change nothing about this but the number of links that are left.  So a file of
a directory is found in two steps, and the second needs one look:

```
p.join name     walk along p, arrive at a place     look the name up there
```

A change at or below one name of a directory leaves the second step for its
other names as it is, and a change of a file the first step too, since no walk
goes on behind a file.

* `walk_append` — a walk in two parts;
* `entry?_join` — what a name behind a path leads to;
* `entry?_join_of_sameBut` — the other names of a directory, where one changes;
* `DifferInFile.follow?_eq_some` — paths, where a file changes.
-/

namespace ComponentBrowser

/-! ## the names of a path -/

namespace Path

theorem exists_split_eq_cons (bytes : Bytes) : ∃ name names, split bytes = name :: names := by
  induction bytes with
  | nil => exact ⟨[], [], rfl⟩
  | cons b bytes ih =>
      obtain ⟨name, names, h⟩ := ih
      rw [split] at h
      by_cases hb : b = separator
      · exact ⟨[], name :: names, by simp [split, h, hb]⟩
      · exact ⟨b :: name, names, by simp [split, h, hb]⟩

theorem split_append_separator (xs ys : Bytes) :
    split (xs ++ separator :: ys) = split xs ++ split ys := by
  induction xs with
  | nil => simp [split]
  | cons b xs ih =>
      obtain ⟨name, names, h⟩ := exists_split_eq_cons xs
      simp only [split, List.cons_append, List.foldr_cons] at ih h ⊢
      rw [ih, h]
      by_cases hb : b = separator <;> simp [hb]

theorem split_of_not_mem {bytes : Bytes} (h : separator ∉ bytes) : split bytes = [bytes] := by
  induction bytes with
  | nil => rfl
  | cons b bytes ih =>
      rw [List.mem_cons, not_or] at h
      have hrest := ih h.2
      simp only [split, List.foldr_cons] at hrest ⊢
      rw [hrest, if_neg (Ne.symm h.1)]

theorem isAbsolute_eq_false {p : Path} (h : separator ∉ p.bytes) : p.isAbsolute = false := by
  rw [isAbsolute, beq_eq_false_iff_ne]
  exact fun hhead => h (List.mem_of_head? hhead)

/-- A name behind bytes that are empty or end in a separator takes the place of
the empty name at their end. -/
theorem exists_split_append {bytes name : Bytes} (hname : separator ∉ name)
    (hend : bytes = [] ∨ bytes.getLast? = some separator) :
    ∃ names, split (bytes ++ name) = names ++ [name] ∧ split bytes = names ++ [[]] := by
  rcases hend with rfl | hlast
  · exact ⟨[], split_of_not_mem hname, rfl⟩
  · obtain ⟨xs, rfl⟩ := List.getLast?_eq_some_iff.mp hlast
    refine ⟨split xs, ?_, split_append_separator xs []⟩
    rw [List.append_assoc, List.singleton_append, split_append_separator, split_of_not_mem hname]

theorem isAbsolute_append {bytes : Bytes} (h : bytes ≠ []) (ys : Bytes) :
    (mk (bytes ++ ys)).isAbsolute = (mk bytes).isAbsolute := by
  obtain ⟨b, rest, rfl⟩ := List.exists_cons_of_ne_nil h
  rfl

/-- The names of a path lie in its bytes, but for a separator at the front. -/
theorem exists_names_append {bytes : Bytes} (h : bytes ≠ []) :
    ∃ body, (∀ ys, (mk (bytes ++ ys)).names = split (body ++ ys)) ∧
      (bytes.getLast? = some separator → body = [] ∨ body.getLast? = some separator) := by
  obtain ⟨b, rest, rfl⟩ := List.exists_cons_of_ne_nil h
  by_cases hb : b = separator
  · refine ⟨rest, fun ys => by simp [names, isAbsolute, hb], fun hlast => ?_⟩
    cases rest with
    | nil => exact .inl rfl
    | cons c rest => exact .inr (by simpa using hlast)
  · exact ⟨b :: rest, fun ys => by simp [names, isAbsolute, hb], .inr⟩

/-- Joining a name to a path puts it behind the names of the path, or in place
of the empty name at their end. -/
theorem exists_names_join (p : Path) {q : Path} (hq : separator ∉ q.bytes) :
    (p.join q).isAbsolute = p.isAbsolute ∧
      ∃ names, (p.join q).names = names ++ [q.bytes] ∧
        (p.names = names ∨ p.names = names ++ [[]]) := by
  obtain ⟨bytes⟩ := p
  rw [join, isAbsolute_eq_false hq, if_neg Bool.false_ne_true]
  by_cases hnil : bytes = []
  · subst hnil
    have hq' : mk ([] ++ q.bytes) = q := rfl
    rw [if_pos (.inl rfl), hq', isAbsolute_eq_false hq, names, isAbsolute_eq_false hq]
    exact ⟨rfl, [], split_of_not_mem hq, .inr rfl⟩
  · obtain ⟨body, hnames, hlast⟩ := exists_names_append hnil
    have hbytes := hnames []
    rw [List.append_nil, List.append_nil] at hbytes
    split
    · next hend =>
        obtain ⟨names, hjoin, hsplit⟩ :=
          exists_split_append hq (hlast (hend.resolve_left hnil))
        exact ⟨isAbsolute_append hnil _, names, (hnames _).trans hjoin,
          .inr (hbytes.trans hsplit)⟩
    · refine ⟨isAbsolute_append hnil _, split body, ?_, .inl hbytes⟩
      rw [hnames, split_append_separator, split_of_not_mem hq]

end Path

namespace Tree

/-! ## walks in two parts -/

theorem advance_append (t : Tree) (here : Place) (xs ys : List Bytes) :
    t.advance here (xs ++ ys) =
      match t.advance here xs with
      | .arrived place => t.advance place ys
      | .link directory target behind => .link directory target (behind ++ ys)
      | .blocked => .blocked := by
  induction xs generalizing here with
  | nil => rfl
  | cons name xs ih =>
      rw [List.cons_append, advance, advance]
      cases t.find here with
      | none => rfl
      | some node =>
          cases node with
          | file | link => rfl
          | directory =>
              dsimp only
              split
              · exact ih here
              · split
                · exact ih here.dropLast
                · cases t.nodeAt (here ++ [name]) with
                  | none => rfl
                  | some node =>
                      cases node with
                      | link => rfl
                      | file | directory => exact ih (here ++ [name])

/-- The second part of a walk starts where the first one ends, with the links
that are left. -/
theorem walk_append (t : Tree) (links : Nat) (here : Place) (xs : List Bytes) :
    ∃ left, ∀ ys, t.walk links here (xs ++ ys) =
      (t.walk links here xs).bind fun place => t.walk left place ys := by
  induction links generalizing here xs with
  | zero =>
      refine ⟨0, fun ys => ?_⟩
      rw [walk, advance_append, walk]
      cases t.advance here xs with
      | arrived place => rw [Option.bind_some, walk]
      | link | blocked => rfl
  | succ links ih =>
      cases hstop : t.advance here xs with
      | arrived place =>
          refine ⟨links + 1, fun ys => ?_⟩
          rw [walk, advance_append, walk, hstop, Option.bind_some, walk]
      | blocked =>
          refine ⟨0, fun ys => ?_⟩
          rw [walk, advance_append, walk, hstop]
          rfl
      | link directory target behind =>
          obtain ⟨left, hleft⟩ :=
            ih (if target.isAbsolute then [] else directory) (target.names ++ behind)
          refine ⟨left, fun ys => ?_⟩
          rw [walk, advance_append, walk, hstop, ← hleft ys, List.append_assoc]

/-! ## a name behind a path -/

/-- Where the names of a path lead.  The empty path has one empty name, which
leads nowhere else. -/
def follow? (t : Tree) (start : Place) (p : Path) : Option Place :=
  t.walk linkLimit (if p.isAbsolute then [] else start) p.names

/-- What a directory holds under a name. -/
def child? (t : Tree) (place : Place) (name : Bytes) : Option Node :=
  match t.find place with
  | some (.directory _) => t.nodeAt (place ++ [name])
  | _ => none

/-- A name of its own: neither the directory itself nor the one above. -/
def IsProper (name : Bytes) : Prop := name ≠ [] ∧ name ≠ [0x2E] ∧ name ≠ [0x2E, 0x2E]

theorem eq_of_walk_empty {t : Tree} {links : Nat} {here place : Place}
    (h : t.walk links here [[]] = some place) : place = here := by
  rw [walk, advance] at h
  cases hfind : t.find here with
  | none => simp [hfind] at h
  | some node =>
      cases node with
      | file | link => simp [hfind] at h
      | directory => simpa [hfind, advance, eq_comm] using h

/-- A name that is no link leads to what stands under it. -/
theorem walk_name {t : Tree} {place : Place} {name : Bytes} (hname : IsProper name)
    (hlink : ∀ target, t.nodeAt (place ++ [name]) ≠ some (.link target)) (links : Nat) :
    t.walk links place [name] = (t.child? place name).map fun _ => place ++ [name] := by
  obtain ⟨hempty, hhere, habove⟩ := hname
  rw [walk, advance, child?]
  cases t.find place with
  | none => rfl
  | some node =>
      cases node with
      | file | link => rfl
      | directory =>
          dsimp only
          rw [if_neg (by simp [hempty, hhere]), if_neg habove]
          cases hnode : t.nodeAt (place ++ [name]) with
          | none => rfl
          | some node =>
              cases node with
              | link target => exact absurd hnode (hlink target)
              | file | directory => rfl

theorem follow?_join {t : Tree} {start place : Place} {p q : Path}
    (hq : Path.separator ∉ q.bytes) (h : t.follow? start p = some place) :
    ∃ left, t.follow? start (p.join q) = t.walk left place [q.bytes] := by
  obtain ⟨habsolute, names, hjoin, hnames⟩ := Path.exists_names_join p hq
  rw [follow?, habsolute, hjoin]
  rw [follow?] at h
  generalize (if p.isAbsolute = true then [] else start) = here at h ⊢
  obtain ⟨left, hleft⟩ := t.walk_append linkLimit here names
  have hplace : t.walk linkLimit here names = some place := by
    rcases hnames with hnames | hnames
    · rwa [hnames] at h
    · rw [hnames, hleft, Option.bind_eq_some_iff] at h
      obtain ⟨place', hplace', hempty⟩ := h
      rwa [eq_of_walk_empty hempty]
  exact ⟨left, by rw [hleft, hplace, Option.bind_some]⟩

/-- What a walk shows of a node. -/
def Node.entry? : Node → Option Entry
  | .file content => some (.file content)
  | .directory size => some (.directory size)
  | .link _ => none

theorem entry?_eq (t : Tree) (start : Place) (p : Path) :
    t.entry? start p = ((t.resolve start p).bind t.find).bind Node.entry? := by
  unfold entry?
  cases (t.resolve start p).bind t.find with
  | none => rfl
  | some node => cases node <;> rfl

theorem find_child (t : Tree) (place : Place) (name : Bytes) :
    ((t.child? place name).map fun _ => place ++ [name]).bind t.find = t.child? place name := by
  cases hchild : t.child? place name with
  | none => rfl
  | some node =>
      rw [Option.map_some, Option.bind_some, find, if_neg (by simp)]
      unfold child? at hchild
      split at hchild
      · exact hchild
      · contradiction

/-- A name behind a path leads to what stands under it where the path leads,
unless the two together are too long. -/
theorem entry?_join {t : Tree} {start place : Place} {p q : Path}
    (hq : Path.separator ∉ q.bytes) (hname : IsProper q.bytes)
    (h : t.follow? start p = some place)
    (hlink : ∀ target, t.nodeAt (place ++ [q.bytes]) ≠ some (.link target)) :
    t.entry? start (p.join q) =
      if (p.join q).bytes = [] ∨ pathLimit ≤ (p.join q).bytes.length then none
      else (t.child? place q.bytes).bind Node.entry? := by
  obtain ⟨left, hleft⟩ := follow?_join hq h
  rw [entry?_eq, resolve, ← follow?, hleft, walk_name hname hlink]
  split
  · rfl
  · rw [find_child]

/-! ## beside what changes -/

variable {t t' : Tree} {q : Place}

/-- Two trees are the same but at a place and below it. -/
def SameBut (t t' : Tree) (q : Place) : Prop :=
  ∀ place, ¬ q <+: place → t'.nodeAt place = t.nodeAt place

theorem SameBut.find_eq (h : t.SameBut t' q) {place : Place} (hplace : ¬ q <+: place) :
    t'.find place = t.find place := by
  rw [find, find, h place hplace]

theorem not_prefix_append_of_ne {place : Place} {name name' : Bytes} (hne : name ≠ name') :
    ¬ place ++ [name'] <+: place ++ [name] := by
  intro h
  have heq := h.eq_of_length (by simp)
  simp [hne.symm] at heq

theorem SameBut.child?_eq {place : Place} {name name' : Bytes}
    (h : t.SameBut t' (place ++ [name'])) (hne : name ≠ name') :
    t'.child? place name = t.child? place name := by
  have hplace : ¬ place ++ [name'] <+: place := by
    intro hprefix
    have hle := hprefix.length_le
    rw [List.length_append, List.length_singleton] at hle
    omega
  rw [child?, child?, h.find_eq hplace, h _ (not_prefix_append_of_ne hne)]

/-- Where one name of a directory changes, the others lead to what they did, if
the path to the directory does. -/
theorem entry?_join_of_sameBut {start place : Place} {p r : Path} {name : Bytes}
    (hr : Path.separator ∉ r.bytes) (hproper : IsProper r.bytes) (hne : r.bytes ≠ name)
    (hlink : ∀ target, t.nodeAt (place ++ [r.bytes]) ≠ some (.link target))
    (h : t.SameBut t' (place ++ [name])) (hfollow : t.follow? start p = some place)
    (hfollow' : t'.follow? start p = some place) :
    t'.entry? start (p.join r) = t.entry? start (p.join r) := by
  have hlink' : ∀ target, t'.nodeAt (place ++ [r.bytes]) ≠ some (.link target) := by
    rwa [h _ (not_prefix_append_of_ne hne)]
  rw [entry?_join hr hproper hfollow hlink, entry?_join hr hproper hfollow' hlink',
    h.child?_eq hne]

/-! ## past a file that changes -/

/-- At most a file stands at a place. -/
def AtMostFile (t : Tree) (q : Place) : Prop := ∀ node ∈ t.nodeAt q, ∃ content, node = .file content

/-- Two trees differ at most in the file that stands at a place, if any does. -/
structure DifferInFile (t t' : Tree) (q : Place) : Prop where
  ne_root : q ≠ []
  sameBut : t.SameBut t' q
  before : t.AtMostFile q
  after : t'.AtMostFile q

/-- A walk that comes to a file stops there. -/
def Stop.StuckAt (q : Place) (stop : Stop) : Prop := stop = .blocked ∨ stop = .arrived q

/-- Two walks stop alike away from a place, or are both stuck there. -/
inductive Stop.Alike (q : Place) : Stop → Stop → Prop
  | arrived {place : Place} (h : ¬ q <+: place) : Alike q (.arrived place) (.arrived place)
  | link {directory : Place} (h : ¬ q <+: directory) (target : Path) (behind : List Bytes) :
      Alike q (.link directory target behind) (.link directory target behind)
  | stuck {a b : Stop} (ha : a.StuckAt q) (hb : b.StuckAt q) : Alike q a b

theorem AtMostFile.advance_stuckAt {t : Tree} {q : Place} (h : t.AtMostFile q) (hq : q ≠ [])
    (rest : List Bytes) : (t.advance q rest).StuckAt q := by
  cases rest with
  | nil => exact .inr rfl
  | cons name rest =>
      rw [advance, find, if_neg hq]
      cases hnode : t.nodeAt q with
      | none => exact .inl rfl
      | some node =>
          obtain ⟨content, rfl⟩ := h node hnode
          exact .inl rfl

theorem AtMostFile.advance_name_stuckAt {t : Tree} {here : Place} {name : Bytes}
    (h : t.AtMostFile (here ++ [name])) (hname : IsProper name) (rest : List Bytes) :
    (t.advance here (name :: rest)).StuckAt (here ++ [name]) := by
  obtain ⟨hempty, hhere, habove⟩ := hname
  rw [advance, if_neg (by simp [hempty, hhere]), if_neg habove]
  cases t.find here with
  | none => exact .inl rfl
  | some node =>
      cases node with
      | file | link => exact .inl rfl
      | directory =>
          cases hnode : t.nodeAt (here ++ [name]) with
          | none => exact .inl rfl
          | some node =>
              obtain ⟨content, rfl⟩ := h node hnode
              exact h.advance_stuckAt (by simp) rest

/-- One stretch of a walk, up to the first link. -/
theorem DifferInFile.advance_alike (h : t.DifferInFile t' q) {here : Place}
    (hhere : ¬ q <+: here) (names : List Bytes) :
    Stop.Alike q (t.advance here names) (t'.advance here names) := by
  induction names generalizing here with
  | nil => exact .arrived hhere
  | cons name rest ih =>
      by_cases hstep : IsProper name ∧ q <+: here ++ [name]
      · -- the name leads to the file, where neither walk goes on
        obtain ⟨hname, hq⟩ := hstep
        obtain rfl := (List.prefix_concat_iff.mp hq).resolve_right hhere
        exact .stuck (h.before.advance_name_stuckAt hname rest)
          (h.after.advance_name_stuckAt hname rest)
      · rw [advance, advance, h.sameBut.find_eq hhere]
        cases t.find here with
        | none => exact .stuck (.inl rfl) (.inl rfl)
        | some node =>
            cases node with
            | file | link => exact .stuck (.inl rfl) (.inl rfl)
            | directory =>
                dsimp only
                split
                · exact ih hhere
                · next hsame =>
                    split
                    · exact ih fun hq => hhere (hq.trans (List.dropLast_prefix here))
                    · next habove =>
                        rw [not_or] at hsame
                        have hq : ¬ q <+: here ++ [name] := fun hq =>
                          hstep ⟨⟨hsame.1, hsame.2, habove⟩, hq⟩
                        rw [h.sameBut _ hq]
                        cases t.nodeAt (here ++ [name]) with
                        | none => exact .stuck (.inl rfl) (.inl rfl)
                        | some node =>
                            cases node with
                            | link target => exact .link hhere target rest
                            | file | directory => exact ih hq

theorem Stop.Alike.eq_arrived {place : Place} {stop : Stop} (h : Alike q (.arrived place) stop)
    (hplace : place ≠ q) : stop = .arrived place := by
  cases h with
  | arrived => rfl
  | stuck ha => simp [StuckAt, hplace] at ha

theorem Stop.Alike.eq_link {directory : Place} {target : Path} {behind : List Bytes} {stop : Stop}
    (h : Alike q (.link directory target behind) stop) :
    ¬ q <+: directory ∧ stop = .link directory target behind := by
  cases h with
  | link hdirectory => exact ⟨hdirectory, rfl⟩
  | stuck ha => simp [StuckAt] at ha

/-- A walk that does not end at the file ends where it did. -/
theorem DifferInFile.walk_eq_some (h : t.DifferInFile t' q) {links : Nat} {here place : Place}
    {names : List Bytes} (hhere : ¬ q <+: here) (hplace : place ≠ q)
    (hwalk : t.walk links here names = some place) :
    t'.walk links here names = some place := by
  have halike := h.advance_alike hhere names
  fun_induction t.walk links here names with
  | case1 links here names place' hstop =>
      injection hwalk with hwalk
      rw [hstop, hwalk] at halike
      rw [walk, halike.eq_arrived hplace]
  | case2 | case3 => contradiction
  | case4 here names directory target behind hstop links ih =>
      rw [hstop] at halike
      obtain ⟨hdirectory, hstop'⟩ := halike.eq_link
      have hnext : ¬ q <+: if target.isAbsolute = true then [] else directory := by
        split
        · rw [List.prefix_nil]
          exact h.ne_root
        · exact hdirectory
      rw [walk, hstop']
      exact ih hnext hwalk (h.advance_alike hnext _)

/-- A path that does not lead to the file leads where it did. -/
theorem DifferInFile.follow?_eq_some (h : t.DifferInFile t' q) {start place : Place} {p : Path}
    (hstart : ¬ q <+: start) (hplace : place ≠ q) (hfollow : t.follow? start p = some place) :
    t'.follow? start p = some place := by
  refine h.walk_eq_some ?_ hplace hfollow
  split
  · rw [List.prefix_nil]
    exact h.ne_root
  · exact hstart

/-! ## changes of a file -/

theorem differInFile_put {content : Bytes} (hq : q ≠ []) (h : t.AtMostFile q) :
    t.DifferInFile ((t.erase q).put q (.file content)) q where
  ne_root := hq
  sameBut place hplace := by
    have hne : place ≠ q := fun heq => hplace (heq ▸ List.prefix_refl q)
    rw [nodeAt_put_of_ne _ _ hne, nodeAt_erase_of_not_prefix _ hplace]
  before := h
  after node hnode := by
    rw [nodeAt_put_self] at hnode
    injection hnode with hnode
    exact ⟨content, hnode.symm⟩

theorem differInFile_erase (hq : q ≠ []) (h : t.AtMostFile q) : t.DifferInFile (t.erase q) q where
  ne_root := hq
  sameBut place hplace := nodeAt_erase_of_not_prefix t hplace
  before := h
  after node hnode := by
    simp [erase] at hnode

end Tree

end ComponentBrowser
