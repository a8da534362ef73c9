/-! # Streams of random words

Randomness comes as an endless sequence of 32-bit words. A stream knows how many of its words have
been taken, so what is left over is the same sequence at a later place.
-/

namespace Phrasebook.Random

/-- An endless sequence of words, of which the first `taken` are used up. -/
structure Words where
  word : Nat → UInt32
  taken : Nat := 0

namespace Words

instance : Inhabited Words := ⟨⟨fun _ => 0, 0⟩⟩

/-- The listed words in order, then zeros. -/
def ofArray (words : Array UInt32) : Words := ⟨fun i => words.getD i 0, 0⟩

/-- The next word. -/
def head (s : Words) : UInt32 := s.word s.taken

/-- The stream behind the next `n` words. -/
def drop (s : Words) (n : Nat) : Words := { s with taken := s.taken + n }

theorem drop_drop (s : Words) (m n : Nat) : (s.drop m).drop n = s.drop (m + n) := by
  simp [drop, Nat.add_assoc]

end Words

end Phrasebook.Random
