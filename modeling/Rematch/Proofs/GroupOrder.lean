import Rematch.Proofs.Failure
import Rematch.Proofs.Leftmost
import Rematch.Proofs.Reading

/-!
# The order of groups

A group takes its number when its parenthesis is opened, and no number is given back. The groups of
a read pattern are therefore numbered from 1 on in the order of their parentheses, also within
conditions. A match captures groups outside conditions only.
-/

namespace Rematch

open Token

namespace Pattern

mutual

/-- The numbers of all groups in a pattern, in the order of their opening parentheses. -/
def groupOrder : Pattern → List Nat
  | .group body index => index :: groupOrder body
  | .sequence parts => partGroupOrder parts
  | .alternation left right => groupOrder left ++ groupOrder right
  | .loop body .. | .atomic body | .lookahead body | .lookbehind body _
  | .negation body => groupOrder body
  | _ => []

def partGroupOrder : List Pattern → List Nat
  | [] => []
  | part :: rest => groupOrder part ++ partGroupOrder rest

end

theorem partGroupOrder_eq_flatMap (parts : List Pattern) :
    partGroupOrder parts = parts.flatMap groupOrder := by
  induction parts with
  | nil => rfl
  | cons part rest ih => rw [partGroupOrder, ih, List.flatMap_cons]

@[simp] theorem groupOrder_concat (parts : List Pattern) :
    (concat parts).groupOrder = parts.flatMap groupOrder := by
  match parts with
  | [] => rfl
  | [part] => simp
  | first :: second :: rest => exact partGroupOrder_eq_flatMap _

mutual

theorem groupCount_le_iff {bound : Nat} : (p : Pattern) →
    (p.groupCount ≤ bound ↔ ∀ index ∈ p.groupOrder, index ≤ bound)
  | .group body index => by
      rw [groupCount, groupOrder, Nat.max_le, groupCount_le_iff body, List.forall_mem_cons]
  | .sequence parts => maxGroupCount_le_iff parts
  | .alternation left right => by
      rw [groupCount, groupOrder, Nat.max_le, groupCount_le_iff left, groupCount_le_iff right,
        List.forall_mem_append]
  | .loop body .. | .atomic body | .lookahead body | .lookbehind body _
  | .negation body => by
      rw [groupCount, groupOrder, groupCount_le_iff body]
  | .empty | .literal _ | .anyChar | .digit | .word | .space | .charClass .. | .lineStart
  | .lineEnd | .wordEdge | .backreference _ => by simp [groupCount, groupOrder]

theorem maxGroupCount_le_iff {bound : Nat} : (parts : List Pattern) →
    (maxGroupCount parts ≤ bound ↔ ∀ index ∈ partGroupOrder parts, index ≤ bound)
  | [] => by simp [maxGroupCount, partGroupOrder]
  | part :: rest => by
      rw [maxGroupCount, partGroupOrder, Nat.max_le, groupCount_le_iff part,
        maxGroupCount_le_iff rest, List.forall_mem_append]

end

theorem groupCount_eq {p : Pattern} {n : Nat} (h : p.groupOrder = List.range' 1 n) :
    p.groupCount = n := by
  have bounded (bound : Nat) : p.groupCount ≤ bound ↔ n ≤ bound := by
    rw [groupCount_le_iff, h]
    simp only [List.mem_range'_1]
    constructor
    · intro all
      cases n with
      | zero => exact Nat.zero_le bound
      | succ n => exact all (n + 1) (by omega)
    · intro le index member
      omega
  exact Nat.le_antisymm ((bounded n).mpr (Nat.le_refl n)) ((bounded _).mp (Nat.le_refl _))

end Pattern

/-! ## Numbers given out by the reader -/

open Pattern

namespace Branches

variable (b : Branches) (p : Pattern)

def groupOrder : List Nat :=
  (b.earlier.map Pattern.groupOrder).getD [] ++ b.items.reverse.flatMap Pattern.groupOrder

theorem groupOrder_toPattern : b.toPattern.groupOrder = b.groupOrder := by
  unfold toPattern groupOrder
  cases b.earlier with
  | none => simp
  | some earlier => simp [Pattern.groupOrder]

theorem groupOrder_add : (b.add p).groupOrder = b.groupOrder ++ p.groupOrder := by
  simp [add, groupOrder]

theorem groupOrder_next : b.next.groupOrder = b.groupOrder := by
  rw [← groupOrder_toPattern b]
  simp [next, groupOrder]

end Branches

/-- The groups from the beginning of the level around an open group to its own parenthesis. -/
def OpenGroup.groupOrder (g : OpenGroup) : List Nat :=
  g.around.groupOrder ++ if g.kind = .capturing then [g.index] else []

theorem groupOrder_of_apply {kind : Grouping} {index : Nat} {body item : Pattern}
    (made : kind.apply index body = .ok item) :
    item.groupOrder = (if kind = .capturing then [index] else []) ++ body.groupOrder := by
  cases kind with
  | lookbehind =>
      obtain ⟨width, _, rfl⟩ := Reader.behind_eq_ok_iff.mp made
      rfl
  | negativeLookbehind =>
      obtain ⟨positive, positive_made, rfl⟩ := Reader.map_eq_ok_iff.mp made
      obtain ⟨width, _, rfl⟩ := Reader.behind_eq_ok_iff.mp positive_made
      rfl
  | _ =>
      cases made
      rfl

theorem Token.groupOrder_of_item {text rest : List Char} {p : Pattern}
    (h : Plain text (.item p) rest) : p.groupOrder = [] := by
  generalize same : Token.item p = token at h
  cases h with
  | bar | closing | opening => contradiction
  | charClass scanned =>
      obtain ⟨_, _, ⟨_, _, _, rfl⟩ | ⟨_, _, rfl⟩⟩ := scanClass_eq_some_iff.mp scanned
      · cases same
        rfl
      · cases same
        rfl
  | escape c =>
      cases same
      unfold escapedItem shorthand?
      repeat' split
      all_goals rfl
  | _ =>
      cases same
      rfl

namespace Reader

def groupOrder (r : Reader) : List Nat :=
  r.opened.reverse.flatMap OpenGroup.groupOrder ++ r.current.groupOrder

def Numbered (r : Reader) : Prop :=
  r.groupOrder = List.range' 1 r.groups

/-- Only a parenthesis that opens a capturing group gives a number, and it is the next one. -/
theorem Takes.numbered {r r' : Reader} {source next : List Char} {token : Token}
    (scanned : scan r.afterItem source = some (token, next)) (h : r.Takes source token r')
    (numbered : r.Numbered) : r'.Numbered := by
  unfold Numbered groupOrder at *
  cases h with
  | item p =>
      rw [Branches.groupOrder_add, groupOrder_of_item (plain_of_scan_item scanned),
        List.append_nil, numbered]
  | @repeats item items min max behind inOrder =>
      have same : Branches.groupOrder { r.current with items := .loop item min max :: items } =
          r.current.groupOrder := by
        simp [Branches.groupOrder, behind, Pattern.groupOrder]
      rw [same, numbered]
  | bar => rw [Branches.groupOrder_next, numbered]
  | opening kind count =>
      subst count
      have open_order : ({} : Branches).groupOrder = [] := rfl
      rw [open_order, List.append_nil, List.reverse_cons, List.flatMap_append,
        List.flatMap_singleton, OpenGroup.groupOrder, ← List.append_assoc, numbered]
      split
      · rw [List.range'_concat, Nat.mul_comm, Nat.mul_one, Nat.add_comm]
      · rw [List.append_nil]
  | @closing innermost opened item inside made =>
      rw [Branches.groupOrder_add, groupOrder_of_apply made, Branches.groupOrder_toPattern,
        ← numbered, inside, List.reverse_cons, List.flatMap_append, List.flatMap_singleton,
        OpenGroup.groupOrder]
      simp only [List.append_assoc]

end Reader

namespace Pattern

/-- The groups of a read pattern are numbered from 1 on in the order of their parentheses. -/
theorem groupOrder_of_parse {text : List Char} {p : Pattern} (h : parse text = .ok p) :
    p.groupOrder = List.range' 1 p.groupCount := by
  obtain ⟨r, reads, closed, rfl⟩ := parse_eq_ok_iff.mp h
  have numbered : r.Numbered := reads.preserves Reader.Takes.numbered rfl
  rw [Reader.Numbered, Reader.groupOrder, closed] at numbered
  have order : r.current.toPattern.groupOrder = List.range' 1 r.groups := by
    rw [Branches.groupOrder_toPattern]
    exact numbered
  rw [groupCount_eq order, order]

end Pattern

/-! ## Groups that a match captures -/

namespace Arrival

/-- What every way of leaving a body does to the marks, every way of leaving a loop does too. -/
theorem related_of_mem_iterate {related : Marks → Marks → Prop}
    (refl : ∀ marks, related marks marks)
    (trans : ∀ {marks between marks' : Marks}, related marks between → related between marks' →
      related marks marks')
    {body : Marks → Nat → List Arrival} {min : Nat} {max : Option Nat}
    (h : ∀ marks pos, ∀ a ∈ body marks pos, related marks a.marks) (remaining count : Nat)
    (origin : GroupStarts) (marks : Marks) (pos : Nat) :
    ∀ a ∈ iterate body min max remaining count origin marks pos, related marks a.marks := by
  refine @forall_mem_iterate _ _ _ _ _ _ _ _ (fun a => related marks a.marks)
    (fun reached => reached) ?_ (refl marks)
  intro pos between origin reached a member
  have onward := trans reached (h between pos a member)
  exact ⟨onward, onward⟩

end Arrival

namespace Pattern

open Arrival

theorem captures_of_mem_ofStop? {stop? : Option Nat} {marks : Marks} {a : Arrival}
    (member : a ∈ ofStop? stop? marks) : a.marks = marks := by
  unfold ofStop? at member
  split at member
  · obtain rfl := List.mem_singleton.mp member
    rfl
  · contradiction

mutual

/-- A pattern leaves alone what is captured under a number that none of its open groups has. -/
theorem captures_of_mem_arrivals (s : Subject) {index : Nat} : (p : Pattern) →
    index ∉ p.groupNumbers → (marks : Marks) → (pos : Nat) → ∀ a ∈ p.arrivals s marks pos,
    a.marks.captures[index]? = marks.captures[index]?
  | .sequence parts, h, marks, pos => by
      rw [arrivals]
      exact captures_of_mem_partArrivals s parts h marks pos
  | .alternation left right, h, marks, pos => by
      rw [groupNumbers, List.mem_append, not_or] at h
      rw [arrivals, List.forall_mem_append]
      exact ⟨captures_of_mem_arrivals s left h.1 marks pos,
        forall_mem_setOrigin _ (fun _ same => same)
          (captures_of_mem_arrivals s right h.2 marks pos)⟩
  | .loop body min max, h, marks, pos => by
      rw [arrivals, Arrival.repeated]
      split
      · exact nofun
      · exact @related_of_mem_iterate
          (fun marks marks' => marks'.captures[index]? = marks.captures[index]?)
          (fun _ => rfl) (fun first later => later.trans first) _ min max
          (captures_of_mem_arrivals s body h) _ 0 _ marks pos
  | .group body other, h, marks, pos => by
      rw [groupNumbers, List.mem_cons, not_or] at h
      rw [arrivals, List.forall_mem_map]
      intro a member
      have same := forall_mem_setOrigin _ (fun _ same => same)
        (captures_of_mem_arrivals s body h.2 (marks.openGroup other pos) pos) a member
      rw [captureGroup, Marks.capture, Std.ExtTreeMap.getElem?_insert,
        if_neg (by simpa using Ne.symm h.1), same]
      rfl
  | .atomic body, h, marks, pos => by
      rw [arrivals]
      intro a member
      exact captures_of_mem_arrivals s body h marks pos a (List.mem_of_mem_take member)
  | .lookahead body, _, marks, pos | .lookbehind body _, _, marks, pos
  | .negation body, _, marks, pos => by
      rw [arrivals]
      intro a member
      rw [captures_of_mem_ofStop? member]
  | .empty, _, marks, pos | .literal _, _, marks, pos | .anyChar, _, marks, pos
  | .digit, _, marks, pos | .word, _, marks, pos | .space, _, marks, pos
  | .charClass .., _, marks, pos | .lineStart, _, marks, pos | .lineEnd, _, marks, pos
  | .wordEdge, _, marks, pos | .backreference _, _, marks, pos => by
      intro a member
      rw [captures_of_mem_ofStop? member]

theorem captures_of_mem_partArrivals (s : Subject) {index : Nat} : (parts : List Pattern) →
    index ∉ partGroupNumbers parts → (marks : Marks) → (pos : Nat) →
    ∀ a ∈ partArrivals s parts marks pos, a.marks.captures[index]? = marks.captures[index]?
  | [], _, marks, pos => by
      intro a member
      rw [captures_of_mem_ofStop? member]
  | part :: rest, h, marks, pos => by
      rw [partGroupNumbers, List.mem_append, not_or] at h
      rw [partArrivals]
      intro a member
      obtain ⟨b, hb, ha⟩ := List.mem_flatMap.mp member
      have later := forall_mem_setOrigin _ (fun _ same => same)
        (captures_of_mem_partArrivals s rest h.2 b.marks b.stop) a ha
      exact later.trans (captures_of_mem_arrivals s part h.1 marks pos b hb)

end

/-- There is a group with a number, at a place that does not lie below a condition. -/
def HasOpenGroup (p : Pattern) (index : Nat) : Prop :=
  ∃ place body, p.at? place = some (.group body index) ∧
    ∀ above q, above <+: place → p.at? above = some q → q.isCondition = false

theorem HasOpenGroup.of_child {p child : Pattern} {step index : Nat}
    (outside : p.isCondition = false) (hchild : p.child? step = some child)
    (h : child.HasOpenGroup index) : p.HasOpenGroup index := by
  obtain ⟨place, body, hplace, clear⟩ := h
  refine ⟨step :: place, body, by simp [at?, hchild, hplace], ?_⟩
  intro above q hprefix hq
  rcases List.prefix_cons_iff.mp hprefix with rfl | ⟨above, rfl, below⟩
  · rw [at?_nil] at hq
    exact Option.some.inj hq ▸ outside
  · simp only [at?, hchild, Option.bind_some] at hq
    exact clear above q below hq

mutual

theorem hasOpenGroup_of_mem {index : Nat} : (p : Pattern) → index ∈ p.groupNumbers →
    p.HasOpenGroup index
  | .sequence parts, h => by
      obtain ⟨step, part, hpart, found⟩ := exists_hasOpenGroup_of_mem parts h
      exact .of_child rfl hpart found
  | .alternation left right, h => by
      rw [groupNumbers, List.mem_append] at h
      rcases h with h | h
      · exact @HasOpenGroup.of_child _ left 0 _ rfl rfl (hasOpenGroup_of_mem left h)
      · exact @HasOpenGroup.of_child _ right 1 _ rfl rfl (hasOpenGroup_of_mem right h)
  | .loop body .., h | .atomic body, h =>
      @HasOpenGroup.of_child _ body 0 _ rfl rfl (hasOpenGroup_of_mem body h)
  | .group body other, h => by
      rcases List.mem_cons.mp h with rfl | h
      · refine ⟨[], body, rfl, fun above q hprefix hq => ?_⟩
        rw [List.prefix_nil.mp hprefix, at?_nil] at hq
        cases hq
        rfl
      · exact @HasOpenGroup.of_child _ body 0 _ rfl rfl (hasOpenGroup_of_mem body h)
  | .lookahead _, h | .lookbehind .., h | .negation _, h | .empty, h | .literal _, h
  | .anyChar, h | .digit, h | .word, h | .space, h | .charClass .., h | .lineStart, h
  | .lineEnd, h | .wordEdge, h | .backreference _, h => by simp [groupNumbers] at h

theorem exists_hasOpenGroup_of_mem {index : Nat} : (parts : List Pattern) →
    index ∈ partGroupNumbers parts →
    ∃ (step : Nat) (part : Pattern), parts[step]? = some part ∧ part.HasOpenGroup index
  | part :: rest, h => by
      rw [partGroupNumbers, List.mem_append] at h
      rcases h with h | h
      · exact ⟨0, part, rfl, hasOpenGroup_of_mem part h⟩
      · obtain ⟨step, part', hpart, found⟩ := exists_hasOpenGroup_of_mem rest h
        exact ⟨step + 1, part', hpart, found⟩

end

theorem groupOrder_subset_of_child? {p child : Pattern} {step : Nat}
    (h : p.child? step = some child) : child.groupOrder ⊆ p.groupOrder := by
  cases p with
  | sequence parts =>
      rw [groupOrder, partGroupOrder_eq_flatMap]
      intro index inside
      exact List.mem_flatMap.mpr ⟨child, List.mem_of_getElem? h, inside⟩
  | alternation left right =>
      rw [groupOrder]
      rcases step with _ | _ | step
      · obtain rfl := Option.some.inj h
        exact List.subset_append_left _ _
      · obtain rfl := Option.some.inj h
        exact List.subset_append_right _ _
      · contradiction
  | group body index =>
      cases step with
      | zero =>
          obtain rfl := Option.some.inj h
          exact List.subset_cons_self index _
      | succ step => contradiction
  | loop body _ _ | atomic body | lookahead body | lookbehind body _ | negation body =>
      cases step with
      | zero =>
          obtain rfl := Option.some.inj h
          exact List.Subset.refl _
      | succ step => contradiction
  | _ => simp [child?] at h

theorem groupOrder_subset_of_at? {p q : Pattern} {place : Path} (h : p.at? place = some q) :
    q.groupOrder ⊆ p.groupOrder := by
  induction place generalizing p with
  | nil =>
      rw [at?_nil] at h
      obtain rfl := Option.some.inj h
      exact List.Subset.refl _
  | cons step place ih =>
      simp only [at?, Option.bind_eq_some_iff] at h
      obtain ⟨child, hchild, h⟩ := h
      exact List.Subset.trans (ih h) (groupOrder_subset_of_child? hchild)

theorem mem_groupOrder_of_at? {p body : Pattern} {place : Path} {index : Nat}
    (h : p.at? place = some (.group body index)) : index ∈ p.groupOrder :=
  groupOrder_subset_of_at? h List.mem_cons_self

theorem HasOpenGroup.mem_groupOrder {p : Pattern} {index : Nat} (h : p.HasOpenGroup index) :
    index ∈ p.groupOrder := by
  obtain ⟨place, body, hplace, _⟩ := h
  exact mem_groupOrder_of_at? hplace

/-- What a match captures belongs to a group outside all conditions. -/
theorem hasOpenGroup_of_matchAt {p : Pattern} {s : Subject} {start index : Nat} {m : Match}
    {span : Span} (h : p.matchAt s start = some m) (captured : m.groups[index]? = some span) :
    p.HasOpenGroup index := by
  obtain ⟨a, member, rfl⟩ := exists_arrival_of_matchAt h
  apply hasOpenGroup_of_mem
  by_contra absent
  have same := captures_of_mem_arrivals s p absent {} start a member
  rw [show a.marks.captures[index]? = some span from captured] at same
  simp at same

/--
The groups of a compiled pattern are numbered from 1 on in the order of their opening parentheses,
also those within conditions, atomic groups and repetitions, so the highest number is how many there
are. A group that takes part in a match, however the match is found, has one of these numbers and
stands outside all conditions.
-/
theorem groups_of_compile {text : String} {p : Pattern} (h : compile text = .ok p) :
    p.groupOrder = List.range' 1 p.groupCount ∧
    ∀ s m, ((∃ start, p.matchAt s start = some m) ∨ p.search s = some m ∨ m ∈ p.allMatches s ∨
        ∃ pos, (p.next s pos).1 = some m) →
      ∀ index span, m.groups[index]? = some span →
        (1 ≤ index ∧ index ≤ p.groupCount) ∧ p.HasOpenGroup index := by
  have order := groupOrder_of_parse h
  refine ⟨order, fun s m found index span captured => ?_⟩
  have attempted : ∃ start, p.matchAt s start = some m := by
    rcases found with found | found | found | ⟨pos, found⟩
    · exact found
    · exact ⟨m.start, ((search_eq_some_iff p s).mp found).1⟩
    · exact ⟨m.start, (leftmost_allMatches p s).sound m found⟩
    · rw [next, nextFrom_eq_findSome?] at found
      obtain ⟨start, _, found⟩ := List.exists_of_findSome?_eq_some found
      exact ⟨start, found⟩
  obtain ⟨start, hm⟩ := attempted
  have outside := hasOpenGroup_of_matchAt hm captured
  have member := outside.mem_groupOrder
  rw [order, List.mem_range'_1] at member
  exact ⟨by omega, outside⟩

/--
The number of the group in a condition counts, but the group is not among those of a match: on `ab`,
`(?=(.))((a)|b)+` captures `b` under 2 and `a` under 3.
-/
theorem groups_of_compile_condition :
    let p : Pattern := .sequence [.lookahead (.group .anyChar 1),
      plus (.group (.alternation (.group (.literal 'a') 3) (.literal 'b')) 2)]
    let s : Subject := { text := #['a', 'b'] }
    compile "(?=(.))((a)|b)+" = .ok p ∧ p.groupOrder = [1, 2, 3] ∧
      ∃ m, p.search s = some m ∧ m.groups[1]? = none ∧ m.groups[2]? = some ⟨1, 2⟩ ∧
        m.groups[3]? = some ⟨0, 1⟩ ∧ p.HasOpenGroup 2 ∧ p.HasOpenGroup 3 := by
  intro p s
  have compiled : compile "(?=(.))((a)|b)+" = .ok p := by rfl
  obtain ⟨order, law⟩ := groups_of_compile compiled
  let found : Match := { start := 0, stop := 2, groups :=
    ((∅ : Captures).insert 3 ⟨0, 1⟩).insert 2 ⟨1, 2⟩ }
  have search : p.search s = some found := by decide
  have inside := law s found (.inr (.inl search))
  have second : found.groups[2]? = some ⟨1, 2⟩ := by decide
  have third : found.groups[3]? = some ⟨0, 1⟩ := by decide
  exact ⟨compiled, order, found, search, by decide, second, third, (inside 2 _ second).2,
    (inside 3 _ third).2⟩

end Pattern

end Rematch
