import Rematch.Proofs.Leftmost
import Rematch.Proofs.Offsets
import Rematch.Template

/-!
# Pieces and replacements

Splitting and replacing cut a text at the same places, so what replacing yields are the pieces with the
replacements between them. Both pass over a match that begins before the end of the last one, but the
matches of a subject never do.
-/

namespace Rematch

def weave : (pieces texts : List (List Char)) → List Char
  | [], _ => []
  | piece :: pieces, [] => piece ++ weave pieces []
  | piece :: pieces, text :: texts => piece ++ text ++ weave pieces texts

def lastStop (last : Nat) (found : List Match) : Nat :=
  (found.getLast?.map Match.stop).getD last

/-- Each match begins no earlier than the last one ends, and all of them lie within the text. -/
def InOrder (limit : Nat) : (last : Nat) → List Match → Prop
  | last, [] => last ≤ limit
  | last, m :: rest => last ≤ m.start ∧ m.start ≤ m.stop ∧ InOrder limit m.stop rest

namespace InOrder

variable {limit last : Nat} {m : Match} {rest : List Match}

theorem le_limit (h : InOrder limit last rest) : last ≤ limit := by
  induction rest generalizing last with
  | nil => exact h
  | cons m rest ih => exact Nat.le_trans h.1 (Nat.le_trans h.2.1 (ih h.2.2))

theorem lastStop_le {earlier : List Match} (h : InOrder limit last (earlier ++ m :: rest)) :
    lastStop last earlier ≤ m.start := by
  induction earlier generalizing last with
  | nil => exact h.1
  | cons first earlier ih =>
      have later := ih h.2.2
      cases earlier with
      | nil => exact later
      | cons second earlier => exact later

theorem mem {found : List Match} (h : InOrder limit last found) (member : m ∈ found) :
    m.start ≤ m.stop ∧ m.stop ≤ limit := by
  induction found generalizing last with
  | nil => exact nomatch member
  | cons first rest ih =>
      rcases List.mem_cons.mp member with rfl | member
      · exact ⟨h.2.1, h.2.2.le_limit⟩
      · exact ih h.2.2 member

end InOrder

theorem Leftmost.inOrder {matchAt : Nat → Option Match} {limit pos last : Nat} {found : List Match}
    (within : ∀ {pos m}, matchAt pos = some m → m.start ≤ m.stop ∧ m.stop ≤ limit)
    (h : Leftmost matchAt pos found) (reached : last ≤ pos) (inside : last ≤ limit) :
    InOrder limit last found := by
  induction found generalizing pos last with
  | nil => exact inside
  | cons m found ih =>
      have bounds := within (h.sound m List.mem_cons_self)
      have after := h.lower m List.mem_cons_self
      exact ⟨Nat.le_trans reached after, bounds.1, ih h.of_cons (Nat.le_max_left _ _) bounds.2⟩

theorem Pattern.inOrder_allMatches (p : Pattern) (s : Subject) :
    InOrder s.size 0 (p.allMatches s) := by
  apply (leftmost_allMatches p s).inOrder _ (Nat.le_refl 0) (Nat.zero_le s.size)
  intro pos m hm
  have span := matchAt_span hm
  rw [span.1]
  exact ⟨span.2.1, span.2.2.1⟩

/-! ## Pieces of characters -/

namespace Subject

variable (s : Subject) {last : Nat} {found : List Match}

theorem piecesFrom_cons {m : Match} (reached : last ≤ m.start) :
    s.piecesFrom last (m :: found) = s.slice last m.start :: s.piecesFrom m.stop found := by
  rw [piecesFrom, if_neg]
  intro skipped
  exact absurd reached (Nat.not_le_of_lt skipped.2)

theorem piecesFrom_eq_zipWith (h : InOrder s.size last found) :
    s.piecesFrom last found =
      List.zipWith s.slice (last :: found.map Match.stop) (found.map Match.start ++ [s.size]) := by
  induction found generalizing last with
  | nil => rfl
  | cons m rest ih =>
      rw [piecesFrom_cons s h.1, ih h.2.2]
      rfl

/-- Replacing puts the replacements between the pieces. -/
theorem replaceFrom_eq_weave (replacement : Match → List Char) (h : InOrder s.size last found) :
    s.replaceFrom replacement last found =
      weave (s.piecesFrom last found) (found.map replacement) := by
  induction found generalizing last with
  | nil => simp [replaceFrom, piecesFrom, weave]
  | cons m rest ih =>
      rw [replaceFrom, if_neg (Nat.not_lt_of_le h.1), ih h.2.2, piecesFrom_cons s h.1, List.map_cons,
        weave]

/-- The pieces and the texts of the matches make up the text. -/
theorem weave_matched (h : InOrder s.size last found) :
    weave (s.piecesFrom last found) (found.map (·.text s)) = s.slice last s.size := by
  induction found generalizing last with
  | nil => simp [piecesFrom, weave]
  | cons m rest ih =>
      rw [piecesFrom_cons s h.1, List.map_cons, weave, ih h.2.2, Match.text, spanText, Match.span,
        slice_append s h.1 h.2.1, slice_append s (Nat.le_trans h.1 h.2.1) h.2.2.le_limit]

end Subject

/-! ## Pieces of bytes -/

namespace Encoded

variable (s : Subject) {last : Nat} {found : List Match}

/-- With the offset of the last match's end as a second cursor, the pieces are the same in bytes. -/
theorem piecesFrom_encode (parts : List ByteArray) (h : InOrder s.size last found) :
    s.encode.piecesFrom parts last (s.offset last) found =
      some (parts ++ (s.piecesFrom last found).map utf8) := by
  induction found generalizing parts last with
  | nil =>
      rw [piecesFrom, ← s.offset_size, s.slice?_encode h (Nat.le_refl s.size)]
      rfl
  | cons m rest ih =>
      have inside := h.2.2.le_limit
      have start := s.offsets_encode (Nat.le_trans h.2.1 inside)
      have piece := s.slice?_encode h.1 (Nat.le_trans h.2.1 inside)
      have stop := s.offsets_encode inside
      rw [piecesFrom, if_neg fun skipped => absurd h.1 (Nat.not_le_of_lt skipped.2)]
      simp only [start, piece, stop, Option.bind_eq_bind, Option.bind_some]
      rw [ih _ h.2.2, s.piecesFrom_cons h.1, List.map_cons, List.append_assoc, List.singleton_append]

/-- The replacer is asked once for each match, one after the other, and no slice is missing. -/
theorem replaceFrom_encode {μ : Type → Type} [Monad μ] [LawfulMonad μ]
    (replacer : Match → μ (List Char)) (result : ByteArray) (h : InOrder s.size last found) :
    (s.encode.replaceFrom replacer result last (s.offset last) found).run =
      (fun texts => some (result ++ utf8 (weave (s.piecesFrom last found) texts))) <$>
        found.mapM replacer := by
  induction found generalizing result last with
  | nil =>
      rw [replaceFrom, ← s.offset_size, s.slice?_encode h (Nat.le_refl s.size)]
      simp [Subject.piecesFrom, weave]
  | cons m rest ih =>
      have inside := h.2.2.le_limit
      have start := s.offsets_encode (Nat.le_trans h.2.1 inside)
      have piece := s.slice?_encode h.1 (Nat.le_trans h.2.1 inside)
      have stop := s.offsets_encode inside
      rw [replaceFrom, if_neg (Nat.not_lt_of_le h.1)]
      simp only [start, piece, stop, OptionT.run_bind, OptionT.run_mk, OptionT.run_lift, Option.elimM,
        pure_bind, Option.elim_some, bind_assoc, ih _ h.2.2, List.mapM_cons, map_bind]
      simp only [map_eq_pure_bind, pure_bind, s.piecesFrom_cons h.1, weave, utf8_append,
        ByteArray.append_assoc]

end Encoded

namespace Template

variable (s : Subject) (m : Match)

theorem expand_zero : expand ['$', '0'] s m = m.text s := by
  simp [expand, expandFrom]

theorem expand_ampersand : expand ['$', '&'] s m = m.text s := by
  simp [expand, expandFrom]

end Template

namespace Pattern

variable (p : Pattern) (s : Subject)

theorem replaceWith_eq_weave (replacement : Match → List Char) :
    p.replaceWith s replacement = weave (p.split s) ((p.allMatches s).map replacement) :=
  s.replaceFrom_eq_weave replacement (inOrder_allMatches p s)

theorem replaceWith_matched : p.replaceWith s (·.text s) = s.text.toList := by
  rw [replaceWith_eq_weave, split, s.weave_matched (inOrder_allMatches p s), Subject.slice_zero_size]

/--
Splitting and replacing go by the list of matches and lose nothing. There is one piece more than there
are matches, and the pieces run from the end of one match to the start of the next. Replacing puts the
replacements between the pieces; a replacer that has effects is asked once for each match, one after the
other. The same holds in bytes, where every slice begins and ends between characters. No match begins
before the end of the one before it, so none is passed over; hence the pieces and the matched texts make
up the text, and so do `$0` and `$&` in place of the matches.
-/
theorem split_replace_consistent :
    (p.split s = List.zipWith s.slice (0 :: (p.allMatches s).map Match.stop)
        ((p.allMatches s).map Match.start ++ [s.size]) ∧
      (p.split s).length = (p.allMatches s).length + 1) ∧
    (∀ replacement, p.replaceWith s replacement =
      weave (p.split s) ((p.allMatches s).map replacement)) ∧
    (∀ (μ : Type → Type) [Monad μ] [LawfulMonad μ] (replacer : Match → μ (List Char)),
      (p.replaceBytes s replacer).run =
        (fun texts => some (utf8 (weave (p.split s) texts))) <$> (p.allMatches s).mapM replacer) ∧
    p.splitBytes s = some ((p.split s).map utf8) ∧
    (∀ m ∈ p.allMatches s, s.encode.spanBytes? m.span = some (utf8 (m.text s))) ∧
    (∀ earlier m later, p.allMatches s = earlier ++ m :: later → lastStop 0 earlier ≤ m.start) ∧
    weave (p.split s) ((p.allMatches s).map (·.text s)) = s.text.toList ∧
    p.replace s ['$', '0'] = s.text.toList ∧
    p.replace s ['$', '&'] = s.text.toList := by
  have inOrder := inOrder_allMatches p s
  have pieces := s.piecesFrom_eq_zipWith inOrder
  refine ⟨⟨pieces, ?_⟩, replaceWith_eq_weave p s, ?_, ?_, ?_, ?_, ?_, ?_, ?_⟩
  · rw [split, pieces]
    simp
  · intro μ _ _ replacer
    have replaced := Encoded.replaceFrom_encode s replacer ByteArray.empty inOrder
    rw [s.offset_zero] at replaced
    simp only [ByteArray.empty_append] at replaced
    exact replaced
  · have cut := Encoded.piecesFrom_encode s [] inOrder
    rw [s.offset_zero] at cut
    exact cut
  · intro m member
    have bounds := inOrder.mem member
    exact s.spanBytes?_encode bounds.1 bounds.2
  · intro earlier m later parts
    rw [parts] at inOrder
    exact inOrder.lastStop_le
  · rw [← replaceWith_eq_weave, replaceWith_matched]
  · rw [replace, funext (Template.expand_zero s), replaceWith_matched]
  · rw [replace, funext (Template.expand_ampersand s), replaceWith_matched]

/--
On `aéb` the pattern `é*` matches before and after every other character too. A replacer that notes where
it is asked is asked from left to right, and `$0` gives the text back.
-/
theorem split_replace_consistent_accent :
    let p := star (.literal 'é')
    let s : Subject := { text := #['a', 'é', 'b'] }
    let replacer : Match → StateM (List Nat) (List Char) := fun m => do
      modify (· ++ [m.start])
      return ['-']
    p.split s = [[], ['a'], [], ['b'], []] ∧
      Id.run ((p.replaceBytes s replacer).run.run []) =
        (some (utf8 ['-', 'a', '-', '-', 'b', '-']), [0, 1, 2, 3]) ∧
      p.replace s ['$', '0'] = ['a', 'é', 'b'] := by
  intro p s replacer
  obtain ⟨_, _, effects, _, _, _, _, whole, _⟩ := split_replace_consistent p s
  have pieces : p.split s = [[], ['a'], [], ['b'], []] := by decide
  have asked : Id.run (((p.allMatches s).mapM replacer).run []) =
      ([['-'], ['-'], ['-'], ['-']], [0, 1, 2, 3]) := by decide
  refine ⟨pieces, ?_, whole⟩
  rw [effects (StateM (List Nat)) replacer, StateT.run_map, Id.run_map, asked, pieces]
  rfl

end Pattern

end Rematch
