import Rematch.Pattern.Path
import Rematch.Proofs.Reading

/-!
# Well-formed patterns

What every operator of a read pattern keeps to: bounds in order, lookbehinds with the width of a
body that shows one, sequences of at least two parts, backreferences of one digit, and negations and
classes of the few forms that can be written.
-/

namespace Rematch

namespace Pattern

/-! ## Checks of all operators -/

mutual

/-- Whether a check holds of every operator. The specials of a class belong to the class. -/
def all (check : Pattern → Bool) : Pattern → Bool
  | .sequence parts => check (.sequence parts) && allParts check parts
  | .alternation left right =>
      check (.alternation left right) && (all check left && all check right)
  | .loop body min max => check (.loop body min max) && all check body
  | .group body index => check (.group body index) && all check body
  | .atomic body => check (.atomic body) && all check body
  | .lookahead body => check (.lookahead body) && all check body
  | .lookbehind body width => check (.lookbehind body width) && all check body
  | .negation body => check (.negation body) && all check body
  | p => check p

def allParts (check : Pattern → Bool) : List Pattern → Bool
  | [] => true
  | part :: rest => all check part && allParts check rest

end

section Checks

variable {check : Pattern → Bool} {p : Pattern}

theorem allParts_iff {parts : List Pattern} :
    allParts check parts = true ↔ ∀ part ∈ parts, part.all check = true := by
  induction parts with
  | nil => simp [allParts]
  | cons part rest ih => simp [allParts, ih]

theorem check_of_all (h : p.all check = true) : check p = true := by
  cases p <;> simp_all [all]

theorem all_child {step : Nat} {child : Pattern} (h : p.all check = true)
    (hchild : p.child? step = some child) : child.all check = true := by
  cases p with
  | sequence parts =>
      simp only [all, Bool.and_eq_true, allParts_iff] at h
      exact h.2 child (List.mem_of_getElem? hchild)
  | alternation left right =>
      simp only [all, Bool.and_eq_true] at h
      match step, hchild with
      | 0, hchild => exact Option.some.inj hchild ▸ h.2.1
      | 1, hchild => exact Option.some.inj hchild ▸ h.2.2
  | loop body _ _ | group body _ | atomic body | lookahead body | lookbehind body _
  | negation body =>
      simp only [all, Bool.and_eq_true] at h
      match step, hchild with
      | 0, hchild => exact Option.some.inj hchild ▸ h.2
  | _ => simp [child?] at hchild

theorem check_at {place : Path} {q : Pattern} (h : p.all check = true)
    (hq : p.at? place = some q) : check q = true := by
  induction place generalizing p with
  | nil =>
      rw [at?_nil] at hq
      exact Option.some.inj hq ▸ check_of_all h
  | cons step place ih =>
      simp only [at?, Option.bind_eq_some_iff] at hq
      obtain ⟨child, hchild, hq⟩ := hq
      exact ih (all_child h hchild) hq

mutual

theorem all_imp {check check' : Pattern → Bool}
    (implies : ∀ q, check q = true → check' q = true) : (p : Pattern) → p.all check = true →
    p.all check' = true
  | .sequence parts, h => by
      simp only [all, Bool.and_eq_true] at h ⊢
      exact ⟨implies _ h.1, allParts_imp implies parts h.2⟩
  | .alternation left right, h => by
      simp only [all, Bool.and_eq_true] at h ⊢
      exact ⟨implies _ h.1, all_imp implies left h.2.1, all_imp implies right h.2.2⟩
  | .loop body .., h | .group body _, h | .atomic body, h | .lookahead body, h
  | .lookbehind body _, h | .negation body, h => by
      simp only [all, Bool.and_eq_true] at h ⊢
      exact ⟨implies _ h.1, all_imp implies body h.2⟩
  | .empty, h | .literal _, h | .anyChar, h | .digit, h | .word, h | .space, h | .charClass .., h
  | .lineStart, h | .lineEnd, h | .wordEdge, h | .backreference _, h => implies _ h

theorem allParts_imp {check check' : Pattern → Bool}
    (implies : ∀ q, check q = true → check' q = true) : (parts : List Pattern) →
    allParts check parts = true → allParts check' parts = true
  | [], _ => rfl
  | part :: rest, h => by
      rw [allParts, Bool.and_eq_true] at h ⊢
      exact ⟨all_imp implies part h.1, allParts_imp implies rest h.2⟩

end

end Checks

/-! ## The forms of operators -/

def isShorthand : Pattern → Bool
  | .digit | .word | .space => true
  | .negation .digit | .negation .word | .negation .space => true
  | _ => false

def isNegatable : Pattern → Bool
  | .digit | .word | .space | .wordEdge => true
  | .charClass .. | .lookahead _ | .lookbehind .. => true
  | _ => false

mutual

/--
No branches, backreferences or repetitions without a fixed count, other than within conditions and
negations.
-/
def isRigid : Pattern → Bool
  | .alternation .. | .backreference _ => false
  | .loop body min max => max == some min && isRigid body
  | .group body _ | .atomic body => isRigid body
  | .sequence parts => areRigid parts
  | _ => true

def areRigid : List Pattern → Bool
  | [] => true
  | part :: rest => isRigid part && areRigid rest

end

mutual

theorem isRigid_of_fixedWidth? {width : Nat} : (p : Pattern) → p.fixedWidth? = some width →
    p.isRigid = true
  | .sequence parts, h => areRigid_of_totalWidth? parts h
  | .loop body min max, h => by
      by_cases exact_ : max = some min
      · simp only [fixedWidth?, if_pos exact_, Option.bind_eq_some_iff] at h
        obtain ⟨each, heach, _⟩ := h
        simp [isRigid, exact_, isRigid_of_fixedWidth? body heach]
      · simp [fixedWidth?, exact_] at h
  | .group body _, h | .atomic body, h => by
      simp only [fixedWidth?] at h
      simp [isRigid, isRigid_of_fixedWidth? body h]
  | .alternation .., h | .backreference _, h => by simp [fixedWidth?] at h
  | .empty, _ | .literal _, _ | .anyChar, _ | .digit, _ | .word, _ | .space, _ | .charClass .., _
  | .lineStart, _ | .lineEnd, _ | .wordEdge, _ | .lookahead _, _ | .lookbehind .., _
  | .negation _, _ => rfl

theorem areRigid_of_totalWidth? {width : Nat} : (parts : List Pattern) →
    totalWidth? parts = some width → areRigid parts = true
  | [], _ => rfl
  | part :: rest, h => by
      simp only [totalWidth?, Option.bind_eq_some_iff] at h
      obtain ⟨first, hfirst, others, hothers, _⟩ := h
      simp [areRigid, isRigid_of_fixedWidth? part hfirst, areRigid_of_totalWidth? rest hothers]

end

def isWellFormed : Pattern → Bool
  | .charClass set specials =>
      !(set.singles.isEmpty && set.ranges.isEmpty && specials.isEmpty) &&
        (set.ranges.all (fun range => range.first ≤ range.last) && specials.all isShorthand)
  | .backreference index => 1 ≤ index && index ≤ 9
  | .sequence parts => 2 ≤ parts.length
  | .loop _ min max =>
      min < UInt64.size && max.all fun most => min ≤ most && most < UInt64.size
  | .lookbehind body width => body.fixedWidth? == some width && body.isRigid
  | .negation body => body.isNegatable
  | _ => true

/-- Whether the specials of a class and the body of a negation are among those that can be written. -/
def isWritable : Pattern → Bool
  | .charClass _ specials => specials.all isShorthand
  | .negation body => body.isNegatable
  | _ => true

theorem isWritable_of_isWellFormed {p : Pattern} (h : p.isWellFormed = true) :
    p.isWritable = true := by
  cases p with
  | charClass set specials =>
      simp only [isWellFormed, Bool.and_eq_true] at h
      exact h.2.2
  | negation body => exact h
  | _ => rfl

theorem all_concat_of {check : Pattern → Bool} {parts : List Pattern} (empty : check .empty = true)
    (joined : ∀ parts, 2 ≤ parts.length → check (.sequence parts) = true)
    (h : ∀ part ∈ parts, part.all check = true) : (concat parts).all check = true := by
  match parts, h with
  | [], _ => exact empty
  | [part], h => exact h part List.mem_cons_self
  | first :: second :: rest, h =>
      simp only [concat_cons_cons, all, Bool.and_eq_true, allParts_iff]
      exact ⟨joined _ (by simp), h⟩

theorem all_concat {parts : List Pattern} (h : ∀ part ∈ parts, part.all isWellFormed = true) :
    (concat parts).all isWellFormed = true :=
  all_concat_of rfl (fun _ many => by simpa [isWellFormed] using many) h

end Pattern

open Pattern Token

/-! ## Tokens -/

namespace Token

theorem isShorthand_of_shorthand? {c : Char} {p : Pattern} (h : shorthand? c = some p) :
    p.isShorthand = true := by
  unfold shorthand? at h
  split at h <;> cases h <;> rfl

theorem isShorthand_of_mem {text rest : List Char} {entries : List ClassEntry} {p : Pattern}
    (h : scanClassEntries text = some (entries, rest)) (member : .special p ∈ entries) :
    p.isShorthand = true := by
  fun_induction scanClassEntries text generalizing entries rest with
  | case3 c text ih =>
      obtain ⟨⟨later, after⟩, found, same⟩ := Option.map_eq_some_iff.mp h
      cases same
      rcases List.mem_cons.mp member with here | there
      · unfold escapedEntry at here
        split at here
        · rename_i short
          cases here
          exact isShorthand_of_shorthand? short
        · contradiction
      · exact ih found there
  | case1 => contradiction
  | case2 | case5 =>
      cases h
      simp at member
  | _ =>
      rename_i ih
      obtain ⟨⟨later, after⟩, found, same⟩ := Option.map_eq_some_iff.mp h
      cases same
      exact ih found (by simpa using member)

theorem between_le (a b : Char) : (CharRange.between a b).first ≤ (CharRange.between a b).last := by
  unfold CharRange.between
  split
  · rename_i below
    exact UInt32.le_of_lt below
  · rename_i above
    exact Char.not_lt.mp above

theorem isWellFormed_toPattern {text rest : List Char} {entry : ClassEntry}
    {entries : List ClassEntry}
    (h : scanClassEntries text = some (entry :: entries, rest)) :
    (ClassEntry.toPattern (entry :: entries)).isWellFormed = true := by
  simp only [ClassEntry.toPattern, isWellFormed, Bool.and_eq_true, List.all_eq_true]
  refine ⟨by cases entry <;> simp [ClassEntry.toSet, ClassEntry.specials], ?_, ?_⟩
  · intro range member
    simp only [ClassEntry.toSet, List.mem_filterMap] at member
    obtain ⟨entry', _, made⟩ := member
    cases entry' <;> simp at made
    simp [← made, between_le]
  · intro p member
    simp only [ClassEntry.specials, List.mem_filterMap] at member
    obtain ⟨entry', hentry, made⟩ := member
    cases entry' <;> simp at made
    exact isShorthand_of_mem h (made ▸ hentry)

theorem isWellFormed_escapedItem (c : Char) : (escapedItem c).all isWellFormed = true := by
  unfold escapedItem
  split
  · rfl
  · split
    · rfl
    · split
      · rename_i digit
        have low : 49 ≤ c.toNat := digit.1
        have high : c.toNat ≤ 57 := digit.2
        have zero : '0'.toNat = 48 := rfl
        simp only [all, isWellFormed, Bool.and_eq_true, decide_eq_true_eq]
        omega
      · cases short : shorthand? c with
        | none => rfl
        | some p =>
            unfold shorthand? at short
            split at short <;> cases short <;> rfl

theorem isWellFormed_of_item {text rest : List Char} {p : Pattern}
    (h : Plain text (.item p) rest) : p.all isWellFormed = true := by
  generalize same : Token.item p = token at h
  cases h with
  | bar | closing | opening => contradiction
  | charClass scanned =>
      obtain ⟨entry, entries, ⟨inner, rfl, found, rfl⟩ | ⟨_, found, rfl⟩⟩ :=
        scanClass_eq_some_iff.mp scanned
      · cases same
        have made := isWellFormed_toPattern found
        exact Bool.and_eq_true_iff.mpr ⟨rfl, made⟩
      · cases same
        exact isWellFormed_toPattern found
  | escape c =>
      cases same
      exact isWellFormed_escapedItem c
  | _ =>
      cases same
      rfl

theorem Sign.fits {min : Nat} {max : Option Nat} {lexeme : List Char} (h : Sign min max lexeme) :
    min < UInt64.size ∧ ∀ most ∈ max, most < UInt64.size := by
  cases h with
  | star | plus | optional => exact ⟨by decide, by simp +decide⟩
  | bounds h =>
      cases h with
      | exactly numeral => exact ⟨numeral.fits, by simpa using numeral.fits⟩
      | atLeast numeral => exact ⟨numeral.fits, by simp⟩
      | between least most => exact ⟨least.fits, by simpa using most.fits⟩

end Token

/-! ## Readers -/

structure Branches.Sound (b : Branches) : Prop where
  earlier : ∀ p ∈ b.earlier, p.all isWellFormed = true
  items : ∀ p ∈ b.items, p.all isWellFormed = true

namespace Branches.Sound

variable {b : Branches} {p : Pattern}

theorem toPattern (h : b.Sound) : b.toPattern.all isWellFormed = true := by
  have last : (concat b.items.reverse).all isWellFormed = true :=
    all_concat fun p member => h.items p (List.mem_reverse.mp member)
  unfold Branches.toPattern
  split
  · exact last
  · rename_i earlier hearlier
    have := h.earlier earlier hearlier
    simp [all, isWellFormed, this, last]

theorem add (h : b.Sound) (hp : p.all isWellFormed = true) : (b.add p).Sound where
  earlier := h.earlier
  items := by
    intro q member
    rcases List.mem_cons.mp member with rfl | later
    · exact hp
    · exact h.items q later

theorem next (h : b.Sound) : b.next.Sound where
  earlier := by
    rintro p ⟨⟩
    exact h.toPattern
  items := by simp [Branches.next]

end Branches.Sound

namespace Reader

structure Sound (r : Reader) : Prop where
  current : r.current.Sound
  around : ∀ g ∈ r.opened, g.around.Sound

theorem sound_start (groups : Nat) : Sound { groups } where
  current := ⟨by simp, by simp⟩
  around := by simp

theorem isWellFormed_apply {kind : Grouping} {index : Nat} {body item : Pattern}
    (h : body.all isWellFormed = true) (made : kind.apply index body = .ok item) :
    item.all isWellFormed = true := by
  have behind {item : Pattern} (made : body.behind = .ok item) : item.all isWellFormed = true := by
    obtain ⟨width, hwidth, rfl⟩ := behind_eq_ok_iff.mp made
    simp [all, isWellFormed, h, hwidth, isRigid_of_fixedWidth? body hwidth]
  cases kind with
  | lookbehind => exact behind made
  | negativeLookbehind =>
      obtain ⟨positive, positive_made, rfl⟩ := map_eq_ok_iff.mp made
      have sound := behind positive_made
      obtain ⟨width, _, rfl⟩ := behind_eq_ok_iff.mp positive_made
      simpa [all, isWellFormed, isNegatable] using sound
  | plain =>
      cases made
      exact h
  | _ =>
      cases made
      simpa [all, isWellFormed, isNegatable] using h

/-- Every token keeps the operators well formed. -/
theorem Takes.sound {r r' : Reader} {source next : List Char} {token : Token}
    (scanned : Token.scan r.afterItem source = some (token, next)) (h : r.Takes source token r')
    (sound : r.Sound) : r'.Sound := by
  cases h with
  | item p =>
      exact ⟨sound.current.add (isWellFormed_of_item (plain_of_scan_item scanned)), sound.around⟩
  | @repeats item items min max behind inOrder =>
      obtain ⟨lexeme, sign, _⟩ := sign_of_scan_repeats scanned
      have member := sound.current.items
      rw [behind, List.forall_mem_cons] at member
      refine ⟨⟨sound.current.earlier, ?_⟩, sound.around⟩
      rw [List.forall_mem_cons]
      refine ⟨?_, member.2⟩
      have bounds : (max.all fun most => min ≤ most && most < UInt64.size) = true := by
        cases max with
        | none => rfl
        | some most => simp [inOrder most rfl, sign.fits.2 most rfl]
      simp [all, isWellFormed, member.1, sign.fits.1, bounds]
  | bar => exact ⟨sound.current.next, sound.around⟩
  | opening kind count =>
      refine ⟨⟨by simp, by simp⟩, ?_⟩
      rw [List.forall_mem_cons]
      exact ⟨sound.current, sound.around⟩
  | @closing innermost opened item inside made =>
      have around := sound.around
      rw [inside, List.forall_mem_cons] at around
      exact ⟨around.1.add (isWellFormed_apply sound.current.toPattern made), around.2⟩

end Reader

namespace Pattern

/-- All operators of a read pattern are well formed. -/
theorem isWellFormed_of_parse {text : List Char} {p : Pattern} (h : parse text = .ok p) :
    p.all isWellFormed = true := by
  obtain ⟨r, reads, _, rfl⟩ := parse_eq_ok_iff.mp h
  exact (reads.preserves Reader.Takes.sound (Reader.sound_start 0)).current.toPattern

end Pattern

end Rematch
