import Mathlib.Data.List.Basic
import Rematch.Proofs.Flatten

/-!
# One pattern in the place of another

Two patterns that have the same results wherever an attempt can reach them can stand for each other
anywhere in a larger pattern. An attempt reaches positions of the text only, with captures that lie in
the text.
-/

namespace Rematch

/-! ## Places that an attempt reaches -/

structure Subject.Contains (s : Subject) (captures : Captures) (pos : Nat) : Prop where
  position : pos ≤ s.size
  spans : ∀ {index : Nat} {span : Span}, captures[index]? = some span →
    span.start ≤ span.stop ∧ span.stop ≤ s.size

theorem Subject.contains_empty {s : Subject} {pos : Nat} (inside : pos ≤ s.size) :
    s.Contains ∅ pos where
  position := inside
  spans found := by simp at found

namespace Result

structure Ahead (s : Subject) (pos : Nat) (result : Result) : Prop where
  forward : pos ≤ result.stop
  inside : s.Contains result.captures result.stop

variable {s : Subject} {captures : Captures} {pos : Nat} {result : Result}
variable {body body' : Captures → Nat → List Result} {min : Nat} {max : Option Nat}

theorem Ahead.of_here (inside : s.Contains captures pos) : Ahead s pos { stop := pos, captures } :=
  ⟨Nat.le_refl pos, inside⟩

theorem Ahead.trans {later : Result} (h : Ahead s pos result) (h' : Ahead s result.stop later) :
    Ahead s pos later :=
  ⟨Nat.le_trans h.forward h'.forward, h'.inside⟩

theorem Ahead.capture (h : Ahead s pos result) (index : Nat) :
    Ahead s pos
      { result with captures := result.captures.insert index { start := pos, stop := result.stop } } where
  forward := h.forward
  inside.position := h.inside.position
  inside.spans {wanted span} found := by
    rw [Std.ExtTreeMap.getElem?_insert] at found
    split at found
    · obtain rfl := Option.some.inj found
      exact ⟨h.forward, h.inside.position⟩
    · exact h.inside.spans found

def Leads (s : Subject) (body : Captures → Nat → List Result) : Prop :=
  ∀ captures pos, s.Contains captures pos → ∀ result ∈ body captures pos, Ahead s pos result

theorem ahead_of_mem_ofCount (inside : s.Contains captures pos) {count : Nat} :
    ∀ result ∈ ofCount min count pos captures, Ahead s pos result := by
  intro result member
  unfold ofCount at member
  split at member
  · contradiction
  · rw [List.mem_singleton.mp member]
    exact .of_here inside

theorem mem_iterate {remaining count : Nat}
    (h : result ∈ iterate body min max (remaining + 1) count captures pos) :
    result ∈ ofCount min count pos captures ∨
      ∃ between ∈ body captures pos,
        result ∈ iterate body min max remaining (count + 1) between.captures between.stop := by
  unfold iterate at h
  split at h
  · exact .inl h
  · split at h
    · exact .inl h
    · rename_i first others hbody
      split at h
      · exact .inl h
      · rcases List.mem_append.mp h with later | here
        · obtain ⟨between, hbetween, member⟩ := List.mem_flatMap.mp later
          split at member
          · contradiction
          · exact .inr ⟨between, hbody ▸ hbetween, member⟩
        · exact .inl here

theorem Leads.iterate (h : Leads s body) (min : Nat) (max : Option Nat) (remaining count : Nat) :
    Leads s (Result.iterate body min max remaining count) := by
  induction remaining generalizing count with
  | zero => exact fun captures pos inside => ahead_of_mem_ofCount inside
  | succ remaining ih =>
      intro captures pos inside result member
      rcases mem_iterate member with here | ⟨between, hbetween, later⟩
      · exact ahead_of_mem_ofCount inside result here
      · have first := h captures pos inside between hbetween
        exact first.trans (ih (count + 1) _ _ first.inside result later)

def SameInside (s : Subject) (body body' : Captures → Nat → List Result) : Prop :=
  ∀ captures pos, s.Contains captures pos → body captures pos = body' captures pos

theorem SameInside.preferredCount (same : SameInside s body body') (leads : Leads s body)
    (max : Option Nat) (remaining count : Nat) (inside : s.Contains captures pos) :
    Result.preferredCount body max remaining count captures pos =
      Result.preferredCount body' max remaining count captures pos := by
  induction remaining generalizing count captures pos with
  | zero => rfl
  | succ remaining ih =>
      unfold Result.preferredCount
      rw [← same captures pos inside]
      cases hbody : body captures pos with
      | nil => rfl
      | cons first others =>
          have ahead := leads captures pos inside first (hbody ▸ List.mem_cons_self)
          simp only [ih (count + 1) ahead.inside]

theorem SameInside.iterate (same : SameInside s body body') (leads : Leads s body)
    (min : Nat) (max : Option Nat) (remaining count : Nat) :
    SameInside s (Result.iterate body min max remaining count)
      (Result.iterate body' min max remaining count) := by
  induction remaining generalizing count with
  | zero => exact fun _ _ _ => rfl
  | succ remaining ih =>
      intro captures pos inside
      unfold Result.iterate
      rw [← same captures pos inside]
      cases hbody : body captures pos with
      | nil => rfl
      | cons first others =>
          have onward : ∀ between ∈ first :: others,
              (if between.stop = pos then []
                else Result.iterate body min max remaining (count + 1) between.captures between.stop) =
              if between.stop = pos then []
                else Result.iterate body' min max remaining (count + 1) between.captures
                  between.stop := by
            intro between member
            have ahead := leads captures pos inside between (hbody ▸ member)
            rw [ih (count + 1) _ _ ahead.inside]
          dsimp only
          rw [List.flatMap_congr onward]

end Result

namespace Pattern

open Result

mutual

theorem leads_results (s : Subject) : (p : Pattern) → Leads s (p.results s)
  | .sequence parts, captures, pos, inside => by
      rw [results]
      exact leads_partResults s parts captures pos inside
  | .alternation left right, captures, pos, inside => by
      rw [results]
      exact List.forall_mem_append.mpr
        ⟨leads_results s left captures pos inside, leads_results s right captures pos inside⟩
  | .loop body min max, captures, pos, inside => by
      intro result member
      rw [results] at member
      split at member
      · contradiction
      · exact (leads_results s body).iterate min max _ 0 captures pos inside result member
  | .group body index, captures, pos, inside => by
      rw [results]
      refine List.forall_mem_map.mpr fun result member => ?_
      exact (leads_results s body captures pos inside result member).capture index
  | .atomic body, captures, pos, inside => by
      rw [results]
      intro result member
      exact leads_results s body captures pos inside result (List.mem_of_mem_take member)
  | .lookahead body, captures, pos, inside => by
      intro result member
      rw [results] at member
      split at member
      · contradiction
      · rw [List.mem_singleton.mp member]
        exact .of_here inside
  | .lookbehind body width, captures, pos, inside => by
      intro result member
      rw [results] at member
      split at member
      · contradiction
      · split at member
        · rw [List.mem_singleton.mp member]
          exact .of_here inside
        · contradiction
  | .negation body, captures, pos, inside => by
      intro result member
      rw [results] at member
      split at member
      · contradiction
      · rename_i room
        split at member
        · rw [List.mem_singleton.mp member]
          cases hz : body.isZeroWidth with
          | true => exact .of_here inside
          | false =>
              have room : pos < s.size := by simpa [hz] using room
              exact ⟨Nat.le_succ pos, room, inside.spans⟩
        · contradiction
  | .empty, captures, pos, inside | .literal _, captures, pos, inside
  | .anyChar, captures, pos, inside | .digit, captures, pos, inside | .word, captures, pos, inside
  | .space, captures, pos, inside | .charClass .., captures, pos, inside
  | .lineStart, captures, pos, inside | .lineEnd, captures, pos, inside
  | .wordEdge, captures, pos, inside | .backreference _, captures, pos, inside => by
      intro result member
      unfold results at member
      split at member
      · rename_i stop hstop
        have advances := singleStop?_advances hstop
        rw [Nat.max_eq_right inside.position] at advances
        rw [List.mem_singleton.mp member]
        exact ⟨advances.1, advances.2, inside.spans⟩
      · contradiction

theorem leads_partResults (s : Subject) : (parts : List Pattern) → Leads s (partResults s parts)
  | [], captures, pos, inside => by
      intro result member
      rw [partResults] at member
      rw [List.mem_singleton.mp member]
      exact .of_here inside
  | part :: rest, captures, pos, inside => by
      intro result member
      rw [partResults] at member
      obtain ⟨between, hbetween, later⟩ := List.mem_flatMap.mp member
      have first := leads_results s part captures pos inside between hbetween
      exact first.trans (leads_partResults s rest _ _ first.inside result later)

end

/-! ## Standing for a pattern -/

/--
In the text of `s`, `q` has whatever the operators around `p` look at: the results, where no group of
`p` lies below another of its number, the groups, and the effect on one character.
-/
structure StandsFor (s : Subject) (q p : Pattern) : Prop where
  results : p.groupsApart = true → SameInside s (p.results s) (q.results s)
  specialHolds : ∀ captures pos, specialHolds s captures pos q = specialHolds s captures pos p
  isZeroWidth : q.isZeroWidth = p.isZeroWidth
  groupNumbers : ∀ index, index ∈ q.groupNumbers ↔ index ∈ p.groupNumbers
  groupsApart : q.groupsApart = p.groupsApart

theorem anySpecialHolds_append (s : Subject) (captures : Captures) (pos : Nat)
    (specials others : List Pattern) :
    anySpecialHolds s captures pos (specials ++ others) =
      (anySpecialHolds s captures pos specials || anySpecialHolds s captures pos others) := by
  induction specials with
  | nil => rfl
  | cons special rest ih => simp only [List.cons_append, anySpecialHolds, ih, Bool.or_assoc]

theorem partGroupNumbers_append (parts others : List Pattern) :
    partGroupNumbers (parts ++ others) = partGroupNumbers parts ++ partGroupNumbers others := by
  induction parts with
  | nil => rfl
  | cons part rest ih => simp only [List.cons_append, partGroupNumbers, ih, List.append_assoc]

theorem partsApart_append (parts others : List Pattern) :
    partsApart (parts ++ others) = (partsApart parts && partsApart others) := by
  induction parts with
  | nil => rfl
  | cons part rest ih => simp only [List.cons_append, partsApart, ih, Bool.and_assoc]

namespace StandsFor

variable {s : Subject} {p q : Pattern}

theorem special (h : StandsFor s q p) (set : CharSet) (before after : List Pattern) :
    StandsFor s (.charClass set (before ++ q :: after)) (.charClass set (before ++ p :: after)) := by
  have holds : ∀ captures pos,
      Pattern.specialHolds s captures pos (.charClass set (before ++ q :: after)) =
        Pattern.specialHolds s captures pos (.charClass set (before ++ p :: after)) := by
    intro captures pos
    simp only [Pattern.specialHolds, anySpecialHolds_append, anySpecialHolds, h.specialHolds]
  refine ⟨fun _ captures pos _ => ?_, holds, rfl, fun _ => Iff.rfl, rfl⟩
  simp only [Pattern.results, singleStop?, holds]

theorem part (h : StandsFor s q p) (before after : List Pattern) :
    StandsFor s (.sequence (before ++ q :: after)) (.sequence (before ++ p :: after)) where
  results apart captures pos inside := by
    simp only [Pattern.groupsApart, partsApart_append, partsApart, Bool.and_eq_true] at apart
    simp only [Pattern.results, Branches.partResults_append, partResults]
    refine List.flatMap_congr fun result member => ?_
    have ahead := leads_partResults s before captures pos inside result member
    rw [h.results apart.2.1 _ _ ahead.inside]
  specialHolds _ _ := rfl
  isZeroWidth := rfl
  groupNumbers index := by
    simp only [Pattern.groupNumbers, partGroupNumbers_append, partGroupNumbers, List.mem_append,
      h.groupNumbers]
  groupsApart := by
    simp only [Pattern.groupsApart, partsApart_append, partsApart, h.groupsApart]

theorem alternation {left left' right right' : Pattern} (h : StandsFor s left' left)
    (h' : StandsFor s right' right) :
    StandsFor s (.alternation left' right') (.alternation left right) where
  results apart captures pos inside := by
    simp only [Pattern.groupsApart, Bool.and_eq_true] at apart
    simp only [Pattern.results, h.results apart.1 captures pos inside,
      h'.results apart.2 captures pos inside]
  specialHolds _ _ := rfl
  isZeroWidth := rfl
  groupNumbers index := by
    simp only [Pattern.groupNumbers, List.mem_append, h.groupNumbers, h'.groupNumbers]
  groupsApart := by simp only [Pattern.groupsApart, h.groupsApart, h'.groupsApart]

theorem loop (h : StandsFor s q p) (min : Nat) (max : Option Nat) :
    StandsFor s (.loop q min max) (.loop p min max) where
  results apart captures pos inside := by
    have same := h.results apart
    have leads := leads_results s p
    simp only [Pattern.results]
    rw [same.preferredCount leads max _ 0 inside, same.iterate leads min max _ 0 captures pos inside]
  specialHolds _ _ := rfl
  isZeroWidth := rfl
  groupNumbers := h.groupNumbers
  groupsApart := h.groupsApart

theorem group (h : StandsFor s q p) (index : Nat) :
    StandsFor s (.group q index) (.group p index) where
  results apart captures pos inside := by
    simp only [Pattern.groupsApart, Bool.and_eq_true] at apart
    simp only [Pattern.results, h.results apart.2 captures pos inside]
  specialHolds _ _ := rfl
  isZeroWidth := rfl
  groupNumbers wanted := by simp only [Pattern.groupNumbers, List.mem_cons, h.groupNumbers]
  groupsApart := by
    simp only [Pattern.groupsApart, List.contains_eq_mem, h.groupNumbers, h.groupsApart]

theorem atomic (h : StandsFor s q p) : StandsFor s (.atomic q) (.atomic p) where
  results apart captures pos inside := by
    simp only [Pattern.results, h.results apart captures pos inside]
  specialHolds _ _ := rfl
  isZeroWidth := rfl
  groupNumbers := h.groupNumbers
  groupsApart := h.groupsApart

theorem lookahead (h : StandsFor s q p) : StandsFor s (.lookahead q) (.lookahead p) where
  results apart captures pos inside := by
    simp only [Pattern.results, h.results apart captures pos inside]
  specialHolds _ _ := rfl
  isZeroWidth := rfl
  groupNumbers _ := Iff.rfl
  groupsApart := h.groupsApart

theorem lookbehind (h : StandsFor s q p) (width : Nat) :
    StandsFor s (.lookbehind q width) (.lookbehind p width) where
  results apart captures pos inside := by
    have before : s.Contains captures (pos - width) :=
      ⟨Nat.le_trans (Nat.sub_le pos width) inside.position, inside.spans⟩
    simp only [Pattern.results, h.results apart captures (pos - width) before]
  specialHolds _ _ := rfl
  isZeroWidth := rfl
  groupNumbers _ := Iff.rfl
  groupsApart := h.groupsApart

theorem negation (h : StandsFor s q p) : StandsFor s (.negation q) (.negation p) where
  results apart captures pos inside := by
    simp only [Pattern.results, h.results apart captures pos inside, h.isZeroWidth]
  specialHolds captures pos := by simp only [Pattern.specialHolds, h.specialHolds]
  isZeroWidth := h.isZeroWidth
  groupNumbers _ := Iff.rfl
  groupsApart := h.groupsApart

protected theorem refl (s : Subject) (p : Pattern) : StandsFor s p p :=
  ⟨fun _ _ _ _ => rfl, fun _ _ => rfl, rfl, fun _ => Iff.rfl, rfl⟩

theorem matchAt (h : StandsFor s q p) (apart : p.groupsApart = true) :
    q.matchAt s = p.matchAt s := by
  refine matchAt_ext fun start inside => ?_
  rw [matchAt_eq_results (h.groupsApart.trans apart) s inside, matchAt_eq_results apart s inside,
    h.results apart ∅ start (Subject.contains_empty inside)]

end StandsFor

/-! ## Somewhere in a pattern -/

/-- A change at some place of a pattern, whatever lies around it. -/
inductive Somewhere (change : Pattern → Pattern → Prop) : Pattern → Pattern → Prop
  | here {p q : Pattern} : change p q → Somewhere change p q
  | special {p q : Pattern} (set : CharSet) (before after : List Pattern) : Somewhere change p q →
      Somewhere change (.charClass set (before ++ p :: after))
        (.charClass set (before ++ q :: after))
  | part {p q : Pattern} (before after : List Pattern) : Somewhere change p q →
      Somewhere change (.sequence (before ++ p :: after)) (.sequence (before ++ q :: after))
  | left {p q : Pattern} (right : Pattern) : Somewhere change p q →
      Somewhere change (.alternation p right) (.alternation q right)
  | right {p q : Pattern} (left : Pattern) : Somewhere change p q →
      Somewhere change (.alternation left p) (.alternation left q)
  | loop {p q : Pattern} (min : Nat) (max : Option Nat) : Somewhere change p q →
      Somewhere change (.loop p min max) (.loop q min max)
  | group {p q : Pattern} (index : Nat) : Somewhere change p q →
      Somewhere change (.group p index) (.group q index)
  | atomic {p q : Pattern} : Somewhere change p q → Somewhere change (.atomic p) (.atomic q)
  | lookahead {p q : Pattern} : Somewhere change p q →
      Somewhere change (.lookahead p) (.lookahead q)
  | lookbehind {p q : Pattern} (width : Nat) : Somewhere change p q →
      Somewhere change (.lookbehind p width) (.lookbehind q width)
  | negation {p q : Pattern} : Somewhere change p q → Somewhere change (.negation p) (.negation q)

/-- What a change puts in the place of a pattern stands for it, and so does the whole around it. -/
theorem Somewhere.standsFor {s : Subject} {change : Pattern → Pattern → Prop}
    (keeps : ∀ p q, change p q → StandsFor s q p) {p q : Pattern} (h : Somewhere change p q) :
    StandsFor s q p := by
  induction h with
  | here changed => exact keeps _ _ changed
  | special set before after _ ih => exact ih.special set before after
  | part before after _ ih => exact ih.part before after
  | left right _ ih => exact ih.alternation (.refl s right)
  | right left _ ih => exact (StandsFor.refl s left).alternation ih
  | loop min max _ ih => exact ih.loop min max
  | group index _ ih => exact ih.group index
  | atomic _ ih => exact ih.atomic
  | lookahead _ ih => exact ih.lookahead
  | lookbehind width _ ih => exact ih.lookbehind width
  | negation _ ih => exact ih.negation

end Pattern

end Rematch
