import Rematch.Proofs.GroupOrder
import Rematch.Proofs.WellFormed

/-!
# Flat patterns

What the text of a pattern keeps of the tree: the parts of a part stand beside their neighbours, an
empty part leaves nothing, and branches join to the left. The flat pattern that remains has the same
groups, the same widths and the same matches.
-/

namespace Rematch

open Pattern

namespace Branches

mutual

/-- The branches with what the text of a pattern adds to them. -/
def write (b : Branches) : Pattern → Branches
  | .empty => b
  | .sequence parts => writeParts b parts
  | .alternation left right => write (write b left).next right
  | .loop body min max => b.add (.loop (write {} body).toPattern min max)
  | .group body index => b.add (.group (write {} body).toPattern index)
  | .atomic body => b.add (.atomic (write {} body).toPattern)
  | .lookahead body => b.add (.lookahead (write {} body).toPattern)
  | .lookbehind body width => b.add (.lookbehind (write {} body).toPattern width)
  | .negation body => b.add (.negation (write {} body).toPattern)
  | p => b.add p

def writeParts (b : Branches) : List Pattern → Branches
  | [] => b
  | part :: rest =>
      writeParts
        (if part.isAlternation then b.add (write {} part).toPattern else write b part) rest

end

end Branches

namespace Pattern

/-- The pattern that the text of a pattern keeps. -/
def flatten (p : Pattern) : Pattern :=
  (Branches.write {} p).toPattern

theorem flatten_loop (body : Pattern) (min : Nat) (max : Option Nat) :
    (Pattern.loop body min max).flatten = .loop body.flatten min max := rfl

theorem flatten_group (body : Pattern) (index : Nat) :
    (Pattern.group body index).flatten = .group body.flatten index := rfl

theorem flatten_atomic (body : Pattern) :
    (Pattern.atomic body).flatten = .atomic body.flatten := rfl

theorem flatten_lookahead (body : Pattern) :
    (Pattern.lookahead body).flatten = .lookahead body.flatten := rfl

theorem flatten_lookbehind (body : Pattern) (width : Nat) :
    (Pattern.lookbehind body width).flatten = .lookbehind body.flatten width := rfl

theorem flatten_negation (body : Pattern) :
    (Pattern.negation body).flatten = .negation body.flatten := rfl

/-- What leaves no operator of its own in a text. -/
def dissolves : Pattern → Bool
  | .empty | .sequence _ => true
  | _ => false

end Pattern

namespace Branches

theorem write_of_item {p : Pattern} (single : p.isAlternation = false) (kept : p.dissolves = false)
    (b : Branches) : b.write p = b.add p.flatten := by
  cases p with
  | empty | sequence => contradiction
  | alternation => contradiction
  | _ => rfl

mutual

/-- What is no alternation adds items to the current branch, the same to every branch. -/
theorem write_of_single : (p : Pattern) → p.isAlternation = false → (b : Branches) →
    b.write p = { b with items := (Branches.write {} p).items ++ b.items }
  | .sequence parts, _, b => writeParts_eq parts b
  | .loop .., _, _ | .group .., _, _ | .atomic _, _, _ | .lookahead _, _, _
  | .lookbehind .., _, _ | .negation _, _, _ | .empty, _, _ | .literal _, _, _ | .anyChar, _, _
  | .digit, _, _ | .word, _, _ | .space, _, _ | .charClass .., _, _ | .lineStart, _, _
  | .lineEnd, _, _ | .wordEdge, _, _ | .backreference _, _, _ => rfl

theorem writeParts_eq : (parts : List Pattern) → (b : Branches) →
    b.writeParts parts = { b with items := (Branches.writeParts {} parts).items ++ b.items }
  | [], _ => rfl
  | part :: rest, b => by
      rw [writeParts, writeParts, writeParts_eq rest, writeParts_eq rest (ite ..)]
      cases single : part.isAlternation with
      | true => simp [add]
      | false => simp [write_of_single part single b]

end

/-- Before the first bar and after any other, the current branch is the flat pattern. -/
theorem toPattern_write {p : Pattern} (single : p.isAlternation = false) :
    Pattern.concat (Branches.write {} p).items.reverse = p.flatten := by
  have first := write_of_single p single {}
  rw [flatten, first]
  simp [toPattern]

/-! ## Groups -/

mutual

theorem groupOrder_write : (p : Pattern) → (b : Branches) →
    (b.write p).groupOrder = b.groupOrder ++ p.groupOrder
  | .sequence parts, b => groupOrder_writeParts parts b
  | .alternation left right, b => by
      rw [write, groupOrder_write right, groupOrder_next, groupOrder_write left, List.append_assoc]
      rfl
  | .loop body .., b | .group body _, b | .atomic body, b | .lookahead body, b
  | .lookbehind body _, b | .negation body, b => by
      rw [write, groupOrder_add]
      simp only [Pattern.groupOrder, groupOrder_toPattern, groupOrder_write body]
      rfl
  | .empty, b => (List.append_nil _).symm
  | .literal _, b | .anyChar, b | .digit, b | .word, b | .space, b | .charClass .., b
  | .lineStart, b | .lineEnd, b | .wordEdge, b | .backreference _, b => groupOrder_add b _

theorem groupOrder_writeParts : (parts : List Pattern) → (b : Branches) →
    (b.writeParts parts).groupOrder = b.groupOrder ++ partGroupOrder parts
  | [], b => (List.append_nil _).symm
  | part :: rest, b => by
      rw [writeParts, groupOrder_writeParts rest, partGroupOrder, ← List.append_assoc]
      cases part.isAlternation with
      | true =>
          rw [if_pos rfl, groupOrder_add, groupOrder_toPattern, groupOrder_write part]
          rfl
      | false => rw [if_neg Bool.false_ne_true, groupOrder_write part]

end

end Branches

namespace Pattern

@[simp] theorem groupOrder_flatten (p : Pattern) : p.flatten.groupOrder = p.groupOrder := by
  rw [flatten, Branches.groupOrder_toPattern, Branches.groupOrder_write]
  rfl

mutual

theorem groupNumbers_subset : (p : Pattern) → p.groupNumbers ⊆ p.groupOrder
  | .sequence parts => partGroupNumbers_subset parts
  | .alternation left right =>
      List.append_subset.mpr ⟨List.subset_append_of_subset_left _ (groupNumbers_subset left),
        List.subset_append_of_subset_right _ (groupNumbers_subset right)⟩
  | .loop body .. | .atomic body => groupNumbers_subset body
  | .group body index => List.cons_subset_cons index (groupNumbers_subset body)
  | .lookahead _ | .lookbehind .. | .negation _ | .empty | .literal _ | .anyChar | .digit | .word
  | .space | .charClass .. | .lineStart | .lineEnd | .wordEdge | .backreference _ =>
      List.nil_subset _

theorem partGroupNumbers_subset : (parts : List Pattern) →
    partGroupNumbers parts ⊆ partGroupOrder parts
  | [] => List.nil_subset _
  | part :: rest =>
      List.append_subset.mpr ⟨List.subset_append_of_subset_left _ (groupNumbers_subset part),
        List.subset_append_of_subset_right _ (partGroupNumbers_subset rest)⟩

end

mutual

theorem groupsApart_of_nodup : (p : Pattern) → p.groupOrder.Nodup → p.groupsApart = true
  | .sequence parts, h => partsApart_of_nodup parts h
  | .alternation left right, h => by
      rw [groupOrder, List.nodup_append] at h
      rw [groupsApart, groupsApart_of_nodup left h.1, groupsApart_of_nodup right h.2.1]
      rfl
  | .group body index, h => by
      rw [groupOrder, List.nodup_cons] at h
      have apart : index ∉ body.groupNumbers := fun inside => h.1 (groupNumbers_subset body inside)
      simp [groupsApart, apart, groupsApart_of_nodup body h.2]
  | .loop body .., h | .atomic body, h | .lookahead body, h | .lookbehind body _, h
  | .negation body, h => groupsApart_of_nodup body h
  | .empty, _ | .literal _, _ | .anyChar, _ | .digit, _ | .word, _ | .space, _ | .charClass .., _
  | .lineStart, _ | .lineEnd, _ | .wordEdge, _ | .backreference _, _ => rfl

theorem partsApart_of_nodup : (parts : List Pattern) → (partGroupOrder parts).Nodup →
    partsApart parts = true
  | [], _ => rfl
  | part :: rest, h => by
      rw [partGroupOrder, List.nodup_append] at h
      rw [partsApart, groupsApart_of_nodup part h.1, partsApart_of_nodup rest h.2.1]
      rfl

end

/-! ## Widths -/

theorem lt_of_width? {n width : Nat} (h : width? n = some width) : width < UInt64.size := by
  obtain ⟨rfl, fits⟩ := width?_eq_some_iff.mp h
  exact fits

theorem totalWidth?_append {parts others : List Pattern} {width width' : Nat}
    (h : totalWidth? parts = some width) (h' : totalWidth? others = some width')
    (fits : width + width' < UInt64.size) :
    totalWidth? (parts ++ others) = some (width + width') := by
  induction parts generalizing width with
  | nil =>
      obtain rfl : 0 = width := Option.some.inj h
      rw [List.nil_append, h', Nat.zero_add]
  | cons part rest ih =>
      simp only [totalWidth?, Option.bind_eq_some_iff] at h
      obtain ⟨first, hfirst, later, hlater, sum⟩ := h
      obtain ⟨rfl, _⟩ := width?_eq_some_iff.mp sum
      have rest_fits : later + width' < UInt64.size := by omega
      simp only [List.cons_append, totalWidth?, hfirst, ih hlater rest_fits, Option.bind_some]
      exact width?_eq_some_iff.mpr ⟨by omega, by omega⟩

theorem totalWidth?_singleton {p : Pattern} {width : Nat} (h : p.fixedWidth? = some width)
    (fits : width < UInt64.size) : totalWidth? [p] = some width := by
  simp [totalWidth?, h, width?, fits]

theorem fixedWidth?_concat {parts : List Pattern} {width : Nat}
    (h : totalWidth? parts = some width) : (concat parts).fixedWidth? = some width := by
  match parts, h with
  | [], h => exact h
  | [part], h =>
      simp only [totalWidth?, Option.bind_eq_some_iff, Option.some.injEq] at h
      obtain ⟨first, hfirst, _, rfl, sum⟩ := h
      obtain ⟨rfl, _⟩ := width?_eq_some_iff.mp sum
      exact hfirst
  | first :: second :: rest, h => exact h

mutual

theorem lt_of_fixedWidth? {width : Nat} : (p : Pattern) → p.fixedWidth? = some width →
    width < UInt64.size
  | .sequence parts, h => lt_of_totalWidth? parts h
  | .loop body min max, h => by
      rw [fixedWidth?] at h
      split at h
      · obtain ⟨_, _, product⟩ := Option.bind_eq_some_iff.mp h
        exact lt_of_width? product
      · contradiction
  | .group body _, h | .atomic body, h => lt_of_fixedWidth? body h
  | .alternation .., h | .backreference _, h => by contradiction
  | .negation body, h => by
      obtain rfl := Option.some.inj h
      split <;> decide
  | .empty, h | .literal _, h | .anyChar, h | .digit, h | .word, h | .space, h | .charClass .., h
  | .lineStart, h | .lineEnd, h | .wordEdge, h | .lookahead _, h | .lookbehind .., h => by
      obtain rfl := Option.some.inj h
      decide

theorem lt_of_totalWidth? {width : Nat} : (parts : List Pattern) →
    totalWidth? parts = some width → width < UInt64.size
  | [], h => by
      obtain rfl := Option.some.inj h
      decide
  | part :: rest, h => by
      simp only [totalWidth?, Option.bind_eq_some_iff] at h
      obtain ⟨_, _, _, _, sum⟩ := h
      exact lt_of_width? sum

end

theorem isZeroWidth_flatten {p : Pattern} (h : p.isNegatable = true) :
    p.flatten.isZeroWidth = p.isZeroWidth := by
  cases p <;> first | rfl | contradiction

theorem totalWidth?_add {b : Branches} {p : Pattern} {before width : Nat}
    (items : totalWidth? b.items.reverse = some before) (h : p.fixedWidth? = some width)
    (fits : before + width < UInt64.size) :
    totalWidth? (b.add p).items.reverse = some (before + width) := by
  rw [Branches.add, List.reverse_cons]
  exact totalWidth?_append items (totalWidth?_singleton h (by omega)) fits

theorem fixedWidth?_of_totalWidth?_write {p : Pattern} {width : Nat}
    (h : p.fixedWidth? = some width)
    (items : totalWidth? (Branches.write {} p).items.reverse = some (0 + width)) :
    p.flatten.fixedWidth? = some width := by
  have single : p.isAlternation = false := by cases p <;> first | rfl | contradiction
  rw [← Branches.toPattern_write single, fixedWidth?_concat items, Nat.zero_add]

mutual

/-- The items that the text of a pattern adds have the width of the pattern in all. -/
theorem totalWidth?_write : (p : Pattern) → p.all isWellFormed = true → {width : Nat} →
    p.fixedWidth? = some width → (b : Branches) → {before : Nat} →
    totalWidth? b.items.reverse = some before → before + width < UInt64.size →
    totalWidth? (b.write p).items.reverse = some (before + width)
  | .sequence parts, sound, _, h, b, _, items, fits =>
      totalWidth?_writeParts parts (Bool.and_eq_true_iff.mp sound).2 h b items fits
  | .loop body min max, sound, _, h, b, _, items, fits => by
      rw [fixedWidth?] at h
      split at h
      · rename_i exactly
        obtain ⟨each, heach, product⟩ := Option.bind_eq_some_iff.mp h
        have flat := fixedWidth?_of_totalWidth?_write heach
          (totalWidth?_write body (Bool.and_eq_true_iff.mp sound).2 heach {} rfl
            (by simpa using lt_of_fixedWidth? body heach))
        refine totalWidth?_add items ?_ fits
        rw [fixedWidth?, if_pos exactly]
        exact Option.bind_eq_some_iff.mpr ⟨each, flat, product⟩
      · contradiction
  | .group body _, sound, _, h, b, _, items, fits
  | .atomic body, sound, _, h, b, _, items, fits =>
      totalWidth?_add items (fixedWidth?_of_totalWidth?_write h
        (totalWidth?_write body (Bool.and_eq_true_iff.mp sound).2 h {} rfl
          (by simpa using lt_of_fixedWidth? body h))) fits
  | .negation body, sound, _, h, b, _, items, fits => by
      refine totalWidth?_add items ?_ fits
      have zero := isZeroWidth_flatten (Bool.and_eq_true_iff.mp sound).1
      rw [← flatten, fixedWidth?, zero]
      exact h
  | .alternation .., _, _, h, _, _, _, _ | .backreference _, _, _, h, _, _, _, _ => by contradiction
  | .empty, _, _, h, _, _, items, _ => by
      obtain rfl := Option.some.inj h
      exact items
  | .lookahead _, _, _, h, _, _, items, fits | .lookbehind .., _, _, h, _, _, items, fits
  | .literal _, _, _, h, _, _, items, fits | .anyChar, _, _, h, _, _, items, fits
  | .digit, _, _, h, _, _, items, fits | .word, _, _, h, _, _, items, fits
  | .space, _, _, h, _, _, items, fits | .charClass .., _, _, h, _, _, items, fits
  | .lineStart, _, _, h, _, _, items, fits | .lineEnd, _, _, h, _, _, items, fits
  | .wordEdge, _, _, h, _, _, items, fits => totalWidth?_add items h fits

theorem totalWidth?_writeParts : (parts : List Pattern) → allParts isWellFormed parts = true →
    {width : Nat} → totalWidth? parts = some width → (b : Branches) → {before : Nat} →
    totalWidth? b.items.reverse = some before → before + width < UInt64.size →
    totalWidth? (b.writeParts parts).items.reverse = some (before + width)
  | [], _, _, h, _, _, items, _ => by
      obtain rfl := Option.some.inj h
      exact items
  | part :: rest, sound, _, h, b, before, items, fits => by
      simp only [totalWidth?, Option.bind_eq_some_iff] at h
      obtain ⟨first, hfirst, others, hothers, sum⟩ := h
      obtain ⟨rfl, _⟩ := width?_eq_some_iff.mp sum
      have single : part.isAlternation = false := by cases part <;> first | rfl | contradiction
      rw [allParts, Bool.and_eq_true] at sound
      rw [Branches.writeParts, if_neg (Bool.eq_false_iff.mp single), ← Nat.add_assoc]
      apply totalWidth?_writeParts rest sound.2 hothers
      · exact totalWidth?_write part sound.1 hfirst b items (by omega)
      · omega

end

theorem fixedWidth?_flatten {p : Pattern} (sound : p.all isWellFormed = true) {width : Nat}
    (h : p.fixedWidth? = some width) : p.flatten.fixedWidth? = some width :=
  fixedWidth?_of_totalWidth?_write h
    (totalWidth?_write p sound h {} rfl (by simpa using lt_of_fixedWidth? p h))

/-! ## Results -/

end Pattern

namespace Branches

variable (s : Subject)

theorem partResults_append (parts others : List Pattern) (captures : Captures) (pos : Nat) :
    partResults s (parts ++ others) captures pos =
      (partResults s parts captures pos).flatMap fun result =>
        partResults s others result.captures result.stop := by
  induction parts generalizing captures pos with
  | nil => simp [partResults]
  | cons part rest ih => simp only [List.cons_append, partResults, ih, List.flatMap_assoc]

theorem partResults_singleton (p : Pattern) (captures : Captures) (pos : Nat) :
    partResults s [p] captures pos = p.results s captures pos := by
  simp only [partResults]
  exact List.flatMap_singleton' _

theorem results_concat (parts : List Pattern) (captures : Captures) (pos : Nat) :
    (concat parts).results s captures pos = partResults s parts captures pos := by
  match parts with
  | [] => rfl
  | [part] => exact (partResults_singleton s part captures pos).symm
  | first :: second :: rest => rfl

def earlierResults (b : Branches) (captures : Captures) (pos : Nat) : List Result :=
  (b.earlier.map fun p => p.results s captures pos).getD []

theorem results_toPattern (b : Branches) (captures : Captures) (pos : Nat) :
    b.toPattern.results s captures pos =
      b.earlierResults s captures pos ++ partResults s b.items.reverse captures pos := by
  unfold toPattern earlierResults
  cases b.earlier with
  | none => exact results_concat s _ captures pos
  | some earlier => simp [Pattern.results, results_concat]

/-- The current branch goes on by what has the given results. -/
structure GoesOn (b b' : Branches) (results : Captures → Nat → List Result) : Prop where
  earlier : b'.earlier = b.earlier
  items : ∀ captures pos, partResults s b'.items.reverse captures pos =
    (partResults s b.items.reverse captures pos).flatMap fun result =>
      results result.captures result.stop

structure Written (p : Pattern) : Prop where
  added : p.isAlternation = false → ∀ b, GoesOn s b (b.write p) (p.results s)
  branches : ∀ earlier captures pos, (write { earlier } p).toPattern.results s captures pos =
    earlierResults s { earlier } captures pos ++ p.results s captures pos

variable {s} {b b' b'' : Branches} {p q : Pattern}
variable {results results' : Captures → Nat → List Result}

theorem GoesOn.refl (h : ∀ captures pos, results captures pos = [{ stop := pos, captures }]) :
    GoesOn s b b results where
  earlier := rfl
  items captures pos := by simp [h]

theorem GoesOn.add (h : q.results s = results) : GoesOn s b (b.add q) results where
  earlier := rfl
  items captures pos := by
    subst h
    rw [Branches.add, List.reverse_cons, partResults_append]
    simp only [partResults_singleton]

theorem GoesOn.trans (h : GoesOn s b b' results) (h' : GoesOn s b' b'' results') :
    GoesOn s b b'' fun captures pos =>
      (results captures pos).flatMap fun result => results' result.captures result.stop where
  earlier := h'.earlier.trans h.earlier
  items captures pos := by rw [h'.items, h.items, List.flatMap_assoc]

theorem Written.flatten (h : Written s p) : p.flatten.results s = p.results s := by
  funext captures pos
  exact h.branches none captures pos

theorem Written.of_added (h : ∀ b, GoesOn s b (b.write p) (p.results s)) : Written s p where
  added _ := h
  branches earlier captures pos := by
    have goesOn := h { earlier }
    rw [results_toPattern, earlierResults, goesOn.earlier, goesOn.items]
    simp [partResults, earlierResults]

theorem Written.of_item (single : p.isAlternation = false) (kept : p.dissolves = false)
    (h : p.flatten.results s = p.results s) : Written s p :=
  .of_added fun b => by
    rw [write_of_item single kept]
    exact .add h

mutual

theorem written (s : Subject) : (p : Pattern) → p.all isWellFormed = true → Written s p
  | .sequence parts, sound =>
      .of_added (goesOn_writeParts s parts (Bool.and_eq_true_iff.mp sound).2)
  | .alternation left right, sound => by
      simp only [all, Bool.and_eq_true] at sound
      have first := written s left sound.2.1
      have second := written s right sound.2.2
      refine ⟨nofun, fun earlier captures pos => ?_⟩
      rw [write, next, second.branches, earlierResults, Option.map_some, Option.getD_some,
        first.branches, Pattern.results, List.append_assoc]
  | .loop body .., sound | .group body _, sound | .atomic body, sound | .lookahead body, sound
  | .lookbehind body _, sound => by
      have flat := (written s body (Bool.and_eq_true_iff.mp sound).2).flatten
      refine .of_item rfl rfl ?_
      funext captures pos
      simp only [flatten_loop, flatten_group, flatten_atomic, flatten_lookahead, flatten_lookbehind,
        Pattern.results, flat]
  | .negation body, sound => by
      have flat := (written s body (Bool.and_eq_true_iff.mp sound).2).flatten
      have zero := isZeroWidth_flatten (Bool.and_eq_true_iff.mp sound).1
      refine .of_item rfl rfl ?_
      funext captures pos
      simp only [flatten_negation, Pattern.results, flat, zero]
  | .empty, _ => .of_added fun _ => .refl fun _ _ => rfl
  | .literal _, _ | .anyChar, _ | .digit, _ | .word, _ | .space, _ | .charClass .., _
  | .lineStart, _ | .lineEnd, _ | .wordEdge, _ | .backreference _, _ => .of_item rfl rfl rfl

theorem goesOn_writeParts (s : Subject) : (parts : List Pattern) →
    allParts isWellFormed parts = true → (b : Branches) →
    GoesOn s b (b.writeParts parts) (partResults s parts)
  | [], _, _ => .refl fun _ _ => rfl
  | part :: rest, sound, b => by
      rw [allParts, Bool.and_eq_true] at sound
      have first := written s part sound.1
      have later := goesOn_writeParts s rest sound.2
      rw [writeParts]
      cases single : part.isAlternation with
      | true => exact GoesOn.trans (.add first.flatten) (later _)
      | false => exact GoesOn.trans (first.added single b) (later _)

end

end Branches

namespace Pattern

variable {p : Pattern}

/-- The flat pattern has the results of the pattern. -/
theorem results_flatten (sound : p.all isWellFormed = true) (s : Subject) :
    p.flatten.results s = p.results s :=
  (Branches.written s p sound).flatten

theorem matchAt_eq_results (apart : p.groupsApart = true) (s : Subject) {start : Nat}
    (inside : start ≤ s.size) : p.matchAt s start = (p.results s ∅ start).head?.map fun result =>
      { start, stop := result.stop, groups := result.captures } := by
  have same : (p.arrivals s {} start).map Arrival.result = p.results s ∅ start :=
    arrivals_map_result s p apart {} start
  rw [matchAt_eq_head? p s inside, ← same, List.head?_map, Option.map_map]
  rfl

theorem matchAt_of_results {q : Pattern} (apart : p.groupOrder.Nodup) (apart' : q.groupOrder.Nodup)
    {s : Subject} (same : q.results s = p.results s) : q.matchAt s = p.matchAt s := by
  refine matchAt_ext fun start inside => ?_
  rw [matchAt_eq_results (groupsApart_of_nodup _ apart') s inside,
    matchAt_eq_results (groupsApart_of_nodup _ apart) s inside, same]

theorem matchAt_flatten (sound : p.all isWellFormed = true) (apart : p.groupOrder.Nodup)
    (s : Subject) : p.flatten.matchAt s = p.matchAt s :=
  matchAt_of_results apart (by rwa [groupOrder_flatten]) (results_flatten sound s)

theorem allMatches_flatten (sound : p.all isWellFormed = true) (apart : p.groupOrder.Nodup)
    (s : Subject) : p.flatten.allMatches s = p.allMatches s := by
  rw [allMatches_eq_matchesFrom, allMatches_eq_matchesFrom, matchAt_flatten sound apart]

end Pattern

end Rematch
