import Mathlib.Logic.Relation
import Rematch.Encoded
import Rematch.Proofs.RoundTrip
import Rematch.Template

/-!
# Changes of shape

Splicing sequences, dropping empty parts and regrouping branches change which operator leaves a choice
and where it is taken up, but neither the ways to match nor their order.
-/

namespace Rematch
namespace Pattern

inductive Regroups : Pattern → Pattern → Prop
  /-- A sequence within a sequence is spliced into it. -/
  | splice (before parts after : List Pattern) :
      Regroups (.sequence (before ++ .sequence parts :: after))
        (.sequence (before ++ (parts ++ after)))
  /-- An empty part is dropped. -/
  | drop (before after : List Pattern) :
      Regroups (.sequence (before ++ .empty :: after)) (concat (before ++ after))
  /-- Branches on the right are joined to the left one. -/
  | rotate (a b c : Pattern) :
      Regroups (.alternation a (.alternation b c)) (.alternation (.alternation a b) c)

inductive Reshapes : Pattern → Pattern → Prop
  | here {p q : Pattern} : Regroups p q → Reshapes p q
  | special {p q : Pattern} (set : CharSet) (before after : List Pattern) : Reshapes p q →
      Reshapes (.charClass set (before ++ p :: after)) (.charClass set (before ++ q :: after))
  | part {p q : Pattern} (before after : List Pattern) : Reshapes p q →
      Reshapes (.sequence (before ++ p :: after)) (.sequence (before ++ q :: after))
  | left {p q : Pattern} (right : Pattern) : Reshapes p q →
      Reshapes (.alternation p right) (.alternation q right)
  | right {p q : Pattern} (left : Pattern) : Reshapes p q →
      Reshapes (.alternation left p) (.alternation left q)
  | loop {p q : Pattern} (min : Nat) (max : Option Nat) : Reshapes p q →
      Reshapes (.loop p min max) (.loop q min max)
  | group {p q : Pattern} (index : Nat) : Reshapes p q → Reshapes (.group p index) (.group q index)
  | atomic {p q : Pattern} : Reshapes p q → Reshapes (.atomic p) (.atomic q)
  | lookahead {p q : Pattern} : Reshapes p q → Reshapes (.lookahead p) (.lookahead q)
  | lookbehind {p q : Pattern} (width : Nat) : Reshapes p q →
      Reshapes (.lookbehind p width) (.lookbehind q width)
  | negation {p q : Pattern} : Reshapes p q → Reshapes (.negation p) (.negation q)

variable {p q : Pattern}

/-! ## Specials and negations -/

theorem not_reshapes_of_isShorthand (h : p.isShorthand = true) : ¬ Reshapes p q := by
  intro reshapes
  cases reshapes with
  | here regroups => cases regroups <;> simp [isShorthand] at h
  | negation inner =>
      -- a shorthand negates an operator without parts, which has no other shape
      cases inner with
      | here regroups => cases regroups <;> simp [isShorthand] at h
      | _ => simp [isShorthand] at h
  | _ => simp [isShorthand] at h

/-- What can be negated takes a character in all its shapes or in none. -/
theorem Reshapes.isNegatable (h : Reshapes p q) (negatable : p.isNegatable = true) :
    q.isNegatable = true ∧ q.isZeroWidth = p.isZeroWidth := by
  cases h with
  | here regroups => cases regroups <;> simp [Pattern.isNegatable] at negatable
  | special | lookahead | lookbehind => exact ⟨rfl, rfl⟩
  | _ => simp [Pattern.isNegatable] at negatable

theorem all_sequence_isWritable (parts : List Pattern) :
    (Pattern.sequence parts).all isWritable = true ↔ ∀ part ∈ parts, part.all isWritable = true := by
  simp only [all, isWritable, Bool.true_and, allParts_iff]

theorem Regroups.all_isWritable (h : Regroups p q) (writable : p.all isWritable = true) :
    q.all isWritable = true := by
  cases h with
  | splice before parts after =>
      simp only [all_sequence_isWritable, List.forall_mem_append, List.forall_mem_cons] at writable ⊢
      exact writable
  | drop before after =>
      rw [all_sequence_isWritable, List.forall_mem_append, List.forall_mem_cons] at writable
      refine all_concat_of rfl (fun _ _ => rfl) ?_
      exact List.forall_mem_append.mpr ⟨writable.1, writable.2.2⟩
  | rotate a b c =>
      simp only [all, isWritable, Bool.true_and, Bool.and_assoc] at writable ⊢
      exact writable

theorem Reshapes.all_isWritable (h : Reshapes p q) (writable : p.all isWritable = true) :
    q.all isWritable = true := by
  induction h with
  | here regroups => exact regroups.all_isWritable writable
  | special set before after inner _ =>
      simp only [all, isWritable, List.all_append, List.all_cons, Bool.and_eq_true] at writable
      exact absurd inner (not_reshapes_of_isShorthand writable.2.1)
  | part before after _ ih =>
      simp only [all_sequence_isWritable, List.forall_mem_append, List.forall_mem_cons] at writable ⊢
      exact ⟨writable.1, ih writable.2.1, writable.2.2⟩
  | left right _ ih =>
      simp only [all, isWritable, Bool.true_and, Bool.and_eq_true] at writable ⊢
      exact ⟨ih writable.1, writable.2⟩
  | right left _ ih =>
      simp only [all, isWritable, Bool.true_and, Bool.and_eq_true] at writable ⊢
      exact ⟨writable.1, ih writable.2⟩
  | negation inner ih =>
      simp only [all, isWritable, Bool.and_eq_true] at writable ⊢
      exact ⟨(inner.isNegatable writable.1).1, ih writable.2⟩
  | loop _ _ _ ih | group _ _ ih | atomic _ ih | lookahead _ ih | lookbehind _ _ ih =>
      simp only [all, isWritable, Bool.true_and] at writable ⊢
      exact ih writable

/-! ## Results -/

theorem Regroups.results (h : Regroups p q) (s : Subject) : q.results s = p.results s := by
  funext captures pos
  cases h with
  | splice before parts after =>
      simp only [Pattern.results, Branches.partResults_append, partResults]
  | drop before after =>
      have empty : ∀ captures pos, Pattern.empty.results s captures pos = [{ stop := pos, captures }] :=
        fun _ _ => rfl
      rw [Branches.results_concat]
      show _ = partResults s (before ++ .empty :: after) captures pos
      simp only [Branches.partResults_append, partResults, empty, List.flatMap_cons,
        List.flatMap_nil, List.append_nil]
  | rotate a b c => simp only [Pattern.results, List.append_assoc]

theorem Reshapes.results (h : Reshapes p q) (writable : p.all isWritable = true) (s : Subject) :
    q.results s = p.results s := by
  funext captures pos
  induction h generalizing captures pos with
  | here regroups => rw [regroups.results]
  | special set before after inner _ =>
      simp only [all, isWritable, List.all_append, List.all_cons, Bool.and_eq_true] at writable
      exact absurd inner (not_reshapes_of_isShorthand writable.2.1)
  | part before after _ ih =>
      rw [all_sequence_isWritable, List.forall_mem_append, List.forall_mem_cons] at writable
      simp only [Pattern.results, Branches.partResults_append, partResults, ih writable.2.1]
  | left right _ ih =>
      simp only [all, isWritable, Bool.true_and, Bool.and_eq_true] at writable
      simp only [Pattern.results, ih writable.1]
  | right left _ ih =>
      simp only [all, isWritable, Bool.true_and, Bool.and_eq_true] at writable
      simp only [Pattern.results, ih writable.2]
  | negation inner ih =>
      simp only [all, isWritable, Bool.and_eq_true] at writable
      simp only [Pattern.results, ih writable.2, (inner.isNegatable writable.1).2]
  | loop _ _ _ ih =>
      simp only [all, isWritable, Bool.true_and] at writable
      have same := funext fun captures => funext (ih writable captures)
      simp only [Pattern.results, same]
  | group _ _ ih | atomic _ ih | lookahead _ ih | lookbehind _ _ ih =>
      simp only [all, isWritable, Bool.true_and] at writable
      simp only [Pattern.results, ih writable]

theorem Regroups.groupOrder (h : Regroups p q) : q.groupOrder = p.groupOrder := by
  cases h with
  | splice before parts after =>
      simp only [Pattern.groupOrder, partGroupOrder_eq_flatMap, List.flatMap_append,
        List.flatMap_cons]
  | drop before after =>
      simp only [groupOrder_concat, Pattern.groupOrder, partGroupOrder_eq_flatMap,
        List.flatMap_append, List.flatMap_cons, List.nil_append]
  | rotate a b c => simp only [Pattern.groupOrder, List.append_assoc]

theorem Reshapes.groupOrder (h : Reshapes p q) : q.groupOrder = p.groupOrder := by
  induction h with
  | here regroups => exact regroups.groupOrder
  | special => rfl
  | part before after _ ih =>
      simp only [Pattern.groupOrder, partGroupOrder_eq_flatMap, List.flatMap_append,
        List.flatMap_cons, ih]
  | _ => simp only [Pattern.groupOrder, *]

/-! ## Answers -/

structure AnswersAlike (s : Subject) (p q : Pattern) : Prop where
  matchAt : ∀ start, p.matchAt s start = q.matchAt s start
  search : p.search s = q.search s
  isMatch : p.isMatch s = q.isMatch s
  allMatches : p.allMatches s = q.allMatches s
  next : ∀ pos, p.next s pos = q.next s pos
  replaceWith : ∀ replacement, p.replaceWith s replacement = q.replaceWith s replacement
  replace : ∀ template, p.replace s template = q.replace s template
  split : p.split s = q.split s
  replaceBytes : ∀ {μ : Type → Type} [Monad μ] (replacer : Match → μ (List Char)),
    p.replaceBytes s replacer = q.replaceBytes s replacer
  splitBytes : p.splitBytes s = q.splitBytes s

theorem AnswersAlike.of_matchAt {s : Subject} (h : p.matchAt s = q.matchAt s) :
    AnswersAlike s p q := by
  have search := search_congr rfl (congrFun h)
  have walk := allMatches_congr rfl (congrFun h)
  exact {
    matchAt := congrFun h
    search
    isMatch := by simp only [Pattern.isMatch, search]
    allMatches := walk
    next := fun pos => by simp only [Pattern.next, h]
    replaceWith := fun replacement => by simp only [Pattern.replaceWith, walk]
    replace := fun template => by simp only [Pattern.replace, Pattern.replaceWith, walk]
    split := by simp only [Pattern.split, walk]
    replaceBytes := fun replacer => by simp only [Pattern.replaceBytes, walk]
    splitBytes := by simp only [Pattern.splitBytes, walk] }

/-- Changes of shape, one after the other, keep the results and the groups. -/
theorem results_of_reshapes (h : Relation.ReflTransGen Reshapes p q)
    (writable : p.all isWritable = true) :
    q.all isWritable = true ∧ q.groupOrder = p.groupOrder ∧ ∀ s, q.results s = p.results s := by
  induction h with
  | refl => exact ⟨writable, rfl, fun _ => rfl⟩
  | tail _ step ih =>
      obtain ⟨writable, order, results⟩ := ih
      refine ⟨step.all_isWritable writable, step.groupOrder.trans order, fun s => ?_⟩
      rw [step.results writable, results]

/--
Changes of shape of a compiled pattern, at any places and any number of them, change no answer on
any subject.
-/
theorem answersAlike_of_reshapes {text : String} (compiled : compile text = .ok p)
    (h : Relation.ReflTransGen Reshapes p q) (s : Subject) : AnswersAlike s q p := by
  have writable : p.all isWritable = true :=
    all_imp (fun _ => isWritable_of_isWellFormed) p (isWellFormed_of_parse compiled)
  have apart := nodup_of_parse compiled
  obtain ⟨_, order, results⟩ := results_of_reshapes h writable
  exact .of_matchAt (matchAt_of_results apart (order ▸ apart) (results s))

/--
In `(?:(?:)(?:(a)b|(?:a|(ab))))*`, dropping the empty part and regrouping the branches below the loop
leaves the two repetitions found in `aba`, and what the groups captured.
-/
theorem answersAlike_of_reshapes_loop :
    let ab : Pattern := .sequence [.group (.literal 'a') 1, .literal 'b']
    let other : Pattern := .group (.sequence [.literal 'a', .literal 'b']) 2
    let branches : Pattern := .alternation ab (.alternation (.literal 'a') other)
    let p : Pattern := star (.sequence [.empty, branches])
    let q : Pattern := star (.alternation (.alternation ab (.literal 'a')) other)
    let s : Subject := { text := #['a', 'b', 'a'] }
    compile "(?:(?:)(?:(a)b|(?:a|(ab))))*" = .ok p ∧ Relation.ReflTransGen Reshapes p q ∧
      p.search s = some { start := 0, stop := 3, groups := (∅ : Captures).insert 1 ⟨0, 1⟩ } ∧
      q.search s = p.search s ∧ AnswersAlike s q p := by
  intro ab other branches p q s
  have compiled : compile "(?:(?:)(?:(a)b|(?:a|(ab))))*" = .ok p := by rfl
  have dropped : Reshapes p (star branches) := .loop 0 none (.here (.drop [] [branches]))
  have rotated : Reshapes (star branches) q :=
    .loop 0 none (.here (.rotate ab (.literal 'a') other))
  have reshaped : Relation.ReflTransGen Reshapes p q := .tail (.single dropped) rotated
  have alike := answersAlike_of_reshapes compiled reshaped s
  exact ⟨compiled, reshaped, by decide, alike.search, alike⟩

end Pattern
end Rematch
