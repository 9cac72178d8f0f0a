import FieldPattern.Machine.Disk

/-! # Walks through directories

What stands at a location after a node has been put somewhere (`node?_put_self`,
`node?_put_of_ne`), and what it takes for names to lead to a directory.

`Leads d links here names links' l` says that the names lead from the directory `here` to the
directory `l` through directories and links of the disk `d`.  It has one case for each kind of
step, so it is kept by every change that leaves directories and links alone (`Leads.mono`), while
`walk` computes it (`leads_of_walk`, `Leads.walk_eq`) and goes on behind it
(`Leads.walk_append`). -/

namespace FieldPattern.Machine.Disk

variable {d d' : Disk} {l m : Location} {n : Node}

/-! ### Nodes after a change -/

theorem node?_congr (h : d'.nodes = d.nodes) (l : Location) : d'.node? l = d.node? l := by
  rw [node?, node?, h]

theorem nodes_stamp (d : Disk) (l : Location) : (d.stamp l).nodes = d.nodes := by
  rw [stamp]
  split <;> rfl

/-- The nodes with another one at a location. -/
def replaced (nodes : List (Location × Node)) (l : Location) (n : Node) : List (Location × Node) :=
  nodes.map fun p => if p.1 = l then (l, n) else p

theorem nodes_put (d : Disk) (l : Location) (n : Node) :
    (d.put l n).nodes = if d.nodes.any fun p => p.1 == l then
        replaced d.nodes l n
      else d.nodes ++ [(l, n)] := by
  rw [put, place, nodes_stamp]
  split
  · rfl
  · simp only [nodes_stamp, replaced]

theorem lookup_replaced_self {nodes : List (Location × Node)} (h : ∃ p ∈ nodes, p.1 = l) :
    (replaced nodes l n).lookup l = some n := by
  induction nodes with
  | nil => simp at h
  | cons p nodes ih =>
      by_cases hp : p.1 = l
      · simp [replaced, hp]
      · have hrest := ih (by simpa [hp] using h)
        rw [replaced, List.map_cons, if_neg hp, List.lookup_cons,
          beq_eq_false_iff_ne.2 (Ne.symm hp)]
        exact hrest

theorem lookup_replaced_of_ne (nodes : List (Location × Node)) (h : m ≠ l) :
    (replaced nodes l n).lookup m = nodes.lookup m := by
  induction nodes with
  | nil => rfl
  | cons p nodes ih =>
      rw [replaced, List.map_cons, List.lookup_cons, List.lookup_cons, ← replaced, ih]
      by_cases hp : p.1 = l
      · simp [hp, beq_eq_false_iff_ne.2 h]
      · rw [if_neg hp]

theorem node?_put_self (hl : l ≠ []) : (d.put l n).node? l = some n := by
  rw [node?, if_neg hl, nodes_put]
  split
  · next h => exact lookup_replaced_self (by simpa using h)
  · next h =>
      have hnone : d.nodes.lookup l = none := by
        rw [List.lookup_eq_none_iff]
        intro p hp
        simp only [List.any_eq_true, beq_iff_eq, not_exists, not_and] at h
        exact bne_iff_ne.2 (Ne.symm (h p hp))
      simp [List.lookup_append, hnone]

theorem node?_put_of_ne (h : m ≠ l) : (d.put l n).node? m = d.node? m := by
  rw [node?, node?, nodes_put]
  split
  · rfl
  · split
    · exact lookup_replaced_of_ne d.nodes h
    · simp [List.lookup_append, List.lookup_cons, beq_eq_false_iff_ne.2 h]

/-! ### Following names -/

/-- A name that an entry of a directory may have. -/
structure IsPlain (name : String) : Prop where
  ne_dot : name ≠ "."
  ne_dots : name ≠ ".."
  short : name.utf8ByteSize ≤ maxNameBytes

/-- The names lead from one directory to another, through directories and links; of the number of
links that may be followed, so many are left. -/
inductive Leads (d : Disk) : Nat → Location → List String → Nat → Location → Prop
  | here {links : Nat} {l : Location} : Leads d links l [] links l
  | stay {links links' : Nat} {here l : Location} {rest : List String} :
      Leads d links here rest links' l → Leads d links here ("." :: rest) links' l
  | up {links links' : Nat} {here l : Location} {rest : List String} :
      Leads d links here.dropLast rest links' l → Leads d links here (".." :: rest) links' l
  | enter {links links' : Nat} {here l : Location} {name : String} {rest : List String} :
      IsPlain name → d.node? (here ++ [name]) = some .directory →
      Leads d links (here ++ [name]) rest links' l → Leads d links here (name :: rest) links' l
  | follow {links links' : Nat} {here l : Location} {name target : String} {rest : List String} :
      IsPlain name → d.node? (here ++ [name]) = some (.link target) →
      Leads d links (if Path.isAbsolute target then [] else here) (Path.names target ++ rest)
        links' l →
      Leads d (links + 1) here (name :: rest) links' l

section steps
variable {links : Nat} {here : Location} {name target : String} {rest : List String} (b : Bool)

theorem walk_missing (hp : IsPlain name) (hn : d.node? (here ++ [name]) = none) :
    d.walk true b links here (name :: rest) =
      if rest.isEmpty then .ok ⟨here ++ [name], none⟩ else .error .notFound := by
  rw [walk, if_neg hp.ne_dot, if_neg hp.ne_dots, if_neg (Nat.not_lt.2 hp.short)]
  simp only [hn]

theorem walk_enter (hp : IsPlain name) (hn : d.node? (here ++ [name]) = some .directory) :
    d.walk true b links here (name :: rest) = d.walk true b links (here ++ [name]) rest := by
  rw [walk, if_neg hp.ne_dot, if_neg hp.ne_dots, if_neg (Nat.not_lt.2 hp.short)]
  simp only [hn]

theorem walk_follow (hp : IsPlain name) (hn : d.node? (here ++ [name]) = some (.link target)) :
    d.walk true b (links + 1) here (name :: rest) =
      d.walk true (b || rest.isEmpty && Path.endsWithSlash target) links
        (if Path.isAbsolute target then [] else here) (Path.names target ++ rest) := by
  rw [walk, if_neg hp.ne_dot, if_neg hp.ne_dots, if_neg (Nat.not_lt.2 hp.short)]
  simp [hn]

theorem walk_loop (hp : IsPlain name) (hn : d.node? (here ++ [name]) = some (.link target)) :
    d.walk true b 0 here (name :: rest) = .error .tooManyLinks := by
  rw [walk, if_neg hp.ne_dot, if_neg hp.ne_dots, if_neg (Nat.not_lt.2 hp.short)]
  simp [hn]

theorem walk_end (hp : IsPlain name) (hn : d.node? (here ++ [name]) = some n)
    (hdirectory : n ≠ .directory) (hlink : ∀ target, n ≠ .link target) :
    d.walk true b links here (name :: rest) =
      if rest.isEmpty && !b then .ok ⟨here ++ [name], some n⟩ else .error .notADirectory := by
  rw [walk, if_neg hp.ne_dot, if_neg hp.ne_dots, if_neg (Nat.not_lt.2 hp.short)]
  cases n with
  | directory => exact absurd rfl hdirectory
  | link target => exact absurd rfl (hlink target)
  | file _ | device _ | program _ => simp only [hn]

end steps

/-- A walk that ends at a directory has only passed directories and links. -/
theorem leads_of_walk {b : Bool} {links : Nat} {here : Location} {names : List String}
    (h : d.walk true b links here names = .ok ⟨l, some .directory⟩) :
    d.node? l = some .directory ∧ ∃ links', Leads d links here names links' l := by
  induction b, links, here, names using walk.induct d true with
  | case1 b links here =>
      rw [walk, Except.ok.injEq, Place.mk.injEq] at h
      obtain ⟨rfl, hl⟩ := h
      exact ⟨hl, links, .here⟩
  | case2 b links here rest ih =>
      rw [walk, if_pos rfl] at h
      obtain ⟨hl, links', hrest⟩ := ih h
      exact ⟨hl, links', .stay hrest⟩
  | case3 b links here rest hne ih =>
      rw [walk, if_neg hne, if_pos rfl] at h
      obtain ⟨hl, links', hrest⟩ := ih h
      exact ⟨hl, links', .up hrest⟩
  | case4 b links here name rest hdot hdots hlong =>
      rw [walk, if_neg hdot, if_neg hdots, if_pos hlong] at h
      cases h
  | case5 b links here name rest hdot hdots hlong there hn hrest =>
      rw [walk_missing b ⟨hdot, hdots, Nat.not_lt.1 hlong⟩ hn, if_pos hrest] at h
      cases h
  | case6 b links here name rest hdot hdots hlong there hn hrest =>
      rw [walk_missing b ⟨hdot, hdots, Nat.not_lt.1 hlong⟩ hn, if_neg hrest] at h
      cases h
  | case7 b links here name rest hdot hdots hlong there hn ih =>
      have hp : IsPlain name := ⟨hdot, hdots, Nat.not_lt.1 hlong⟩
      rw [walk_enter b hp hn] at h
      obtain ⟨hl, links', hrest⟩ := ih h
      exact ⟨hl, links', .enter hp hn hrest⟩
  | case8 b links here name rest hdot hdots hlong there ends target hn hends =>
      simp at hends
  | case9 b here name rest hdot hdots hlong there ends target hn hends =>
      rw [walk_loop b ⟨hdot, hdots, Nat.not_lt.1 hlong⟩ hn] at h
      cases h
  | case10 b here name rest hdot hdots hlong there ends target hn hends links ih =>
      have hp : IsPlain name := ⟨hdot, hdots, Nat.not_lt.1 hlong⟩
      rw [walk_follow b hp hn] at h
      obtain ⟨hl, links', hrest⟩ := ih h
      exact ⟨hl, links', .follow hp hn hrest⟩
  | case11 b links here name rest hdot hdots hlong there ends n hdir hlink hn hends =>
      rw [walk_end b ⟨hdot, hdots, Nat.not_lt.1 hlong⟩ hn hdir hlink, if_pos hends] at h
      cases h
      exact absurd rfl hdir
  | case12 b links here name rest hdot hdots hlong there ends n hdir hlink hn hends =>
      rw [walk_end b ⟨hdot, hdots, Nat.not_lt.1 hlong⟩ hn hdir hlink, if_neg hends] at h
      cases h

section Leads
variable {links links' : Nat} {here : Location} {names : List String}

theorem Leads.mono (h : Leads d links here names links' l)
    (hd : ∀ m n, d.node? m = some n → n = .directory ∨ (∃ target, n = .link target) →
      d'.node? m = some n) :
    Leads d' links here names links' l := by
  induction h with
  | here => exact .here
  | stay _ ih => exact .stay ih
  | up _ ih => exact .up ih
  | enter hp hn _ ih => exact .enter hp (hd _ _ hn (.inl rfl)) ih
  | follow hp hn _ ih => exact .follow hp (hd _ _ hn (.inr ⟨_, rfl⟩)) ih

theorem Leads.walk_eq (h : Leads d links here names links' l) (b : Bool) :
    d.walk true b links here names = .ok ⟨l, d.node? l⟩ := by
  induction h generalizing b with
  | here => rw [walk]
  | stay _ ih =>
      rw [walk, if_pos rfl]
      exact ih b
  | up _ ih =>
      rw [walk, if_neg (by decide), if_pos rfl]
      exact ih b
  | enter hp hn _ ih =>
      rw [walk_enter b hp hn]
      exact ih b
  | follow hp hn _ ih =>
      rw [walk_follow b hp hn]
      exact ih _

theorem Leads.walk_append (h : Leads d links here names links' l) (b : Bool) {rest : List String}
    (hrest : rest ≠ []) :
    d.walk true b links here (names ++ rest) = d.walk true b links' l rest := by
  induction h with
  | here => rfl
  | stay _ ih =>
      rw [List.cons_append, walk, if_pos rfl]
      exact ih
  | up _ ih =>
      rw [List.cons_append, walk, if_neg (by decide), if_pos rfl]
      exact ih
  | enter hp hn _ ih =>
      rw [List.cons_append, walk_enter b hp hn]
      exact ih
  | @follow _ _ _ _ _ _ more hp hn _ ih =>
      have hmore : (more ++ rest).isEmpty = false := by simp [hrest]
      rw [List.cons_append, walk_follow b hp hn, hmore, Bool.false_and, Bool.or_false,
        ← List.append_assoc]
      exact ih

end Leads

end FieldPattern.Machine.Disk
