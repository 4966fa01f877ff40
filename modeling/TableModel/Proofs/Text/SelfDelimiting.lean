/-
# TableModel.Proofs.Text.SelfDelimiting — texts that tell where they end

A statement is written from left to right: a keyword, a name, a list, a flag, another list. Reading
one back is possible when each piece says by itself where it ends. This module states that property
for a way of writing things, relative to what may follow, and carries it through the pieces that
statements are made of: words, numbers, optional keywords and joined lists.

What may follow matters, because a word goes on as long as its characters do and a list as long as
its separator does. A text that is self-delimiting before the empty rest determines what was written.
-/
import Mathlib.Data.List.TakeDrop

namespace TableModel.Text

variable {α β : Type}

/-- Written things can be split off the front of a text: two valid things with possible rests and
the same text altogether are the same thing with the same rest. -/
def SelfDelimiting (write : α → List Char) (valid : α → Prop) (rests : List Char → Prop) : Prop :=
  ∀ ⦃a b : α⦄ ⦃r s : List Char⦄, valid a → valid b → rests r → rests s →
    write a ++ r = write b ++ s → a = b ∧ r = s

/-- The first character of a rest, if there is one, fails a test. -/
def Stops (test : Char → Bool) (rest : List Char) : Prop :=
  ∀ c ∈ rest.head?, test c = false

@[simp] theorem stops_nil (test : Char → Bool) : Stops test [] := by
  intro c hc
  simp at hc

@[simp] theorem stops_cons {test : Char → Bool} {c : Char} {rest : List Char} :
    Stops test (c :: rest) ↔ test c = false := by
  simp [Stops]

/-- Characters that a test tells apart are different. -/
theorem ne_of_test {test : Char → Bool} {c d : Char} (hc : test c = true) (hd : test d = false) :
    c ≠ d := by
  rintro rfl
  rw [hc] at hd
  exact absurd hd (by decide)

/-- A rest that stops a test stops every test that passes less. -/
theorem Stops.mono {test test' : Char → Bool} {rest : List Char} (h : Stops test rest)
    (hle : ∀ c, test' c = true → test c = true) : Stops test' rest := by
  intro c hc
  have hstop := h c hc
  by_contra hpass
  rw [hle c (by simpa using hpass)] at hstop
  exact absurd hstop (by decide)

/-- A rest that stops a test starts with no keyword whose first character passes it. -/
theorem Stops.not_prefix {test : Char → Bool} {rest keyword : List Char} {c : Char}
    (h : Stops test rest) (hc : test c = true) : ¬ c :: keyword <+: rest := by
  rintro ⟨behind, rfl⟩
  simp [hc] at h

/-- Keywords behind a blank that differ in their first letter are no prefix of each other. -/
theorem not_prefix_of_ne {blank c d : Char} {keyword rest : List Char} (h : c ≠ d) :
    ¬ blank :: c :: keyword <+: blank :: d :: rest := by
  rintro ⟨behind, heq⟩
  simp only [List.cons_append, List.cons.injEq, true_and] at heq
  exact h heq.1

/-! ## Identifiers -/

/-- A letter, a digit or the underscore. -/
def isWordChar (c : Char) : Bool :=
  c.isAlphanum || c == '_'

/-- Characters of a word, the first of them no digit. -/
def isIdentifier (text : String) : Bool :=
  match text.toList with
  | [] => false
  | c :: rest => (c.isAlpha || c == '_') && rest.all isWordChar

theorem isWordChar_of_mem {text : String} (h : isIdentifier text = true) {c : Char}
    (hc : c ∈ text.toList) : isWordChar c = true := by
  unfold isIdentifier at h
  split at h
  · exact absurd h (by decide)
  · rename_i first rest heq
    simp only [Bool.and_eq_true, Bool.or_eq_true, List.all_eq_true] at h
    rw [heq] at hc
    rcases List.mem_cons.mp hc with rfl | hc
    · rcases h.1 with h | h
      · simp [isWordChar, Char.isAlphanum, h]
      · simp [isWordChar, h]
    · exact h.2 c hc

namespace SelfDelimiting

/-- A text with nothing after it determines what was written. -/
theorem eq_of_eq {write : α → List Char} {valid : α → Prop} {rests : List Char → Prop}
    (h : SelfDelimiting write valid rests) (hnil : rests []) {a b : α} (ha : valid a) (hb : valid b)
    (same : write a = write b) : a = b :=
  (h ha hb hnil hnil (by rw [same])).1

/-- Fewer things and fewer rests. -/
theorem mono {write : α → List Char} {valid valid' : α → Prop} {rests rests' : List Char → Prop}
    (h : SelfDelimiting write valid rests) (hvalid : ∀ a, valid' a → valid a)
    (hrests : ∀ r, rests' r → rests r) : SelfDelimiting write valid' rests' := by
  intro a b r s ha hb hr hs same
  exact h (hvalid a ha) (hvalid b hb) (hrests r hr) (hrests s hs) same

/-- Things that are written as other things are written. -/
theorem comap {write : β → List Char} {valid : β → Prop} {rests : List Char → Prop}
    (h : SelfDelimiting write valid rests) {f : α → β} (inj : Function.Injective f) :
    SelfDelimiting (fun a => write (f a)) (fun a => valid (f a)) rests := by
  intro a b r s ha hb hr hs same
  obtain ⟨heq, hrest⟩ := h ha hb hr hs same
  exact ⟨inj heq, hrest⟩

/-- Things that a reader reads back, together with what follows them. -/
theorem ofReader {write : α → List Char} {valid : α → Prop} {rests : List Char → Prop}
    (read : List Char → α × List Char)
    (h : ∀ a r, valid a → rests r → read (write a ++ r) = (a, r)) :
    SelfDelimiting write valid rests := by
  intro a b r s ha hb hr hs same
  have heq : (a, r) = (b, s) := by rw [← h a r ha hr, ← h b s hb hs, same]
  exact Prod.mk.inj heq

/-! ## Words and numbers -/

/-- Characters that pass a test, before a character that does not. -/
theorem span (test : Char → Bool) :
    SelfDelimiting id (fun cs => ∀ c ∈ cs, test c = true) (Stops test) := by
  refine ofReader (List.span test) fun cs r hcs hr => ?_
  rw [List.span_eq_takeWhile_dropWhile, id, List.takeWhile_append_of_pos hcs,
    List.dropWhile_append_of_pos hcs]
  cases r with
  | nil => simp
  | cons c r => simp [stops_cons.mp hr]

/-- A text of characters that pass a test. -/
theorem word (test : Char → Bool) :
    SelfDelimiting String.toList (fun text => ∀ c ∈ text.toList, test c = true) (Stops test) :=
  (span test).comap fun _ _ same => String.toList_inj.mp same

/-- An identifier goes on to the first character that is none of a word. -/
theorem identifier :
    SelfDelimiting String.toList (fun text => isIdentifier text = true) (Stops isWordChar) :=
  (word isWordChar).mono (fun _ h _ => isWordChar_of_mem h) fun _ h => h

/-- A natural number by its digits. -/
theorem digits :
    SelfDelimiting (fun n : Nat => (toString n).toList) (fun _ => True) (Stops Char.isDigit) := by
  have inj : Function.Injective (Nat.toDigits 10) := by
    intro m n same
    rw [← Nat.ofDigitChars_ten_toDigits (n := m), same, Nat.ofDigitChars_ten_toDigits]
  intro m n r s _ _ hr hs same
  have isDigit : ∀ k : Nat, ∀ c ∈ Nat.toDigits 10 k, c.isDigit = true := fun k c hc =>
    Nat.isDigit_of_mem_toDigits (by decide) (by decide) hc
  simp only [Nat.toString_eq_repr, Nat.toList_repr] at same
  -- the digits are a span, and a number is determined by its digits
  obtain ⟨heq, hrest⟩ := span Char.isDigit (isDigit m) (isDigit n) hr hs same
  exact ⟨inj heq, hrest⟩

/-! ## Fixed text around things -/

/-- Fixed text after a thing, which it may be followed by whatever comes then. -/
theorem before {write : α → List Char} {valid : α → Prop} {rests : List Char → Prop}
    (h : SelfDelimiting write valid rests) (fixed : List Char) (hfixed : ∀ r, rests (fixed ++ r)) :
    SelfDelimiting (fun a => write a ++ fixed) valid (fun _ => True) := by
  intro a b r s ha hb _ _ same
  simp only [List.append_assoc] at same
  obtain ⟨heq, hrest⟩ := h ha hb (hfixed r) (hfixed s) same
  exact ⟨heq, List.append_cancel_left hrest⟩

/-- Two things one after the other, when the second is a possible rest of the first. -/
theorem pair {write : α → List Char} {valid : α → Prop} {rests : List Char → Prop}
    {write' : β → List Char} {valid' : β → Prop} {rests' : List Char → Prop}
    (h : SelfDelimiting write valid rests) (h' : SelfDelimiting write' valid' rests')
    (next : ∀ b r, valid' b → rests' r → rests (write' b ++ r)) :
    SelfDelimiting (fun p : α × β => write p.1 ++ write' p.2) (fun p => valid p.1 ∧ valid' p.2)
      rests' := by
  intro p q r s hp hq hr hs same
  simp only [List.append_assoc] at same
  obtain ⟨hfirst, hrest⟩ := h hp.1 hq.1 (next _ _ hp.2 hr) (next _ _ hq.2 hs) same
  obtain ⟨hsecond, hrest⟩ := h' hp.2 hq.2 hr hs hrest
  exact ⟨Prod.ext hfirst hsecond, hrest⟩

/-! ## Optional pieces -/

/-- A keyword that is there or not, before a rest that does not start with it. -/
theorem flag (keyword : List Char) :
    SelfDelimiting (fun present : Bool => if present then keyword else []) (fun _ => True)
      (fun r => ¬ keyword <+: r) := by
  intro a b r s _ _ hr hs same
  cases a <;> cases b
  · exact ⟨rfl, by simpa using same⟩
  · exact absurd ⟨s, by simpa using same.symm⟩ hr
  · exact absurd ⟨r, by simpa using same⟩ hs
  · exact ⟨rfl, by simpa using same⟩

/-- A thing behind a keyword, or nothing. -/
def writeOption (keyword : List Char) (write : α → List Char) : Option α → List Char
  | none => []
  | some a => keyword ++ write a

/-- An optional thing behind a keyword, before a rest that does not start with the keyword. -/
theorem option {write : α → List Char} {valid : α → Prop} {rests : List Char → Prop}
    (h : SelfDelimiting write valid rests) (keyword : List Char) :
    SelfDelimiting (writeOption keyword write) (fun o => ∀ a ∈ o, valid a)
      (fun r => rests r ∧ ¬ keyword <+: r) := by
  intro a b r s ha hb hr hs same
  match a, b with
  | none, none => exact ⟨rfl, same⟩
  | none, some b => exact absurd ⟨write b ++ s, by simpa [writeOption] using same.symm⟩ hr.2
  | some a, none => exact absurd ⟨write a ++ r, by simpa [writeOption] using same⟩ hs.2
  | some a, some b =>
    have same' : write a ++ r = write b ++ s := by simpa [writeOption] using same
    obtain ⟨heq, hrest⟩ := h (ha a rfl) (hb b rfl) hr.1 hs.1 same'
    exact ⟨congrArg some heq, hrest⟩

/-! ## Lists -/

/-- Things one after the other with a separator between each two. -/
def writeJoined (separator : List Char) (write : α → List Char) (as : List α) : List Char :=
  separator.intercalate (as.map write)

@[simp] theorem writeJoined_singleton (separator : List Char) (write : α → List Char) (a : α) :
    writeJoined separator write [a] = write a := by
  simp [writeJoined]

@[simp] theorem writeJoined_cons_cons (separator : List Char) (write : α → List Char) (a b : α)
    (as : List α) :
    writeJoined separator write (a :: b :: as)
      = write a ++ separator ++ writeJoined separator write (b :: as) := by
  simp [writeJoined]

/-- Joined lists that are not empty, before a rest that does not start with the separator. The
separator itself has to be a possible rest of what it separates. -/
theorem joined {write : α → List Char} {valid : α → Prop} {rests : List Char → Prop}
    (h : SelfDelimiting write valid rests) (separator : List Char)
    (hsep : ∀ r, rests (separator ++ r)) :
    SelfDelimiting (writeJoined separator write) (fun as => as ≠ [] ∧ ∀ a ∈ as, valid a)
      (fun r => rests r ∧ ¬ separator <+: r) := by
  intro as
  induction as with
  | nil => intro bs r s has; exact absurd rfl has.1
  | cons a as ih =>
    intro bs r s has hbs hr hs same
    obtain ⟨b, bs, rfl⟩ := List.exists_cons_of_ne_nil hbs.1
    have ha : valid a := has.2 a (by simp)
    have hb : valid b := hbs.2 b (by simp)
    match as, bs with
    | [], [] =>
      obtain ⟨rfl, hrest⟩ := h ha hb hr.1 hs.1 (by simpa using same)
      exact ⟨rfl, hrest⟩
    | [], b' :: bs =>
      -- the rest of the shorter list would have to start with the separator
      obtain ⟨rfl, hrest⟩ := h ha hb hr.1 (hsep (writeJoined separator write (b' :: bs) ++ s))
        (by simpa using same)
      exact absurd ⟨_, hrest.symm⟩ hr.2
    | a' :: as, [] =>
      obtain ⟨rfl, hrest⟩ := h ha hb (hsep (writeJoined separator write (a' :: as) ++ r)) hs.1
        (by simpa using same)
      exact absurd ⟨_, hrest⟩ hs.2
    | a' :: as, b' :: bs =>
      obtain ⟨rfl, hrest⟩ := h ha hb (hsep (writeJoined separator write (a' :: as) ++ r))
        (hsep (writeJoined separator write (b' :: bs) ++ s)) (by simpa using same)
      have htail := ih ⟨by simp, fun x hx => has.2 x (by simp [List.mem_cons.mp hx])⟩
        ⟨by simp, fun x hx => hbs.2 x (by simp [List.mem_cons.mp hx])⟩ hr hs
        (List.append_cancel_left hrest)
      exact ⟨by rw [htail.1], htail.2⟩

/-- Names with commas between them, before a character that is neither a comma nor of a word. -/
theorem names :
    SelfDelimiting (fun names : List String => (String.intercalate ", " names).toList)
      (fun names => names ≠ [] ∧ ∀ name ∈ names, isIdentifier name = true)
      (fun r => Stops isWordChar r ∧ ¬ ", ".toList <+: r) := by
  have h := identifier.joined ", ".toList (by intro r; simp [isWordChar])
  unfold writeJoined at h
  simpa only [String.toList_intercalate] using h

/-- A joined list behind a keyword; an empty one is left out with its keyword. -/
def writeClause (keyword separator : List Char) (write : α → List Char) : List α → List Char
  | [] => []
  | as => keyword ++ writeJoined separator write as

/-- Clauses of joined lists, before a rest that starts neither with the separator nor with the
keyword. -/
theorem clause {write : α → List Char} {valid : α → Prop} {rests : List Char → Prop}
    (h : SelfDelimiting write valid rests) (keyword separator : List Char)
    (hsep : ∀ r, rests (separator ++ r)) :
    SelfDelimiting (writeClause keyword separator write) (fun as => ∀ a ∈ as, valid a)
      (fun r => rests r ∧ ¬ separator <+: r ∧ ¬ keyword <+: r) := by
  intro as bs r s has hbs hr hs same
  match as, bs with
  | [], [] => exact ⟨rfl, same⟩
  | [], b :: bs =>
    -- no clause here and a keyword there: the rest would have to start with the keyword
    exact absurd ⟨writeJoined separator write (b :: bs) ++ s,
      by simpa [writeClause] using same.symm⟩ hr.2.2
  | a :: as, [] =>
    exact absurd ⟨writeJoined separator write (a :: as) ++ r,
      by simpa [writeClause] using same⟩ hs.2.2
  | a :: as, b :: bs =>
    have same' : writeJoined separator write (a :: as) ++ r
        = writeJoined separator write (b :: bs) ++ s := by
      simpa [writeClause] using same
    exact h.joined separator hsep ⟨by simp, has⟩ ⟨by simp, hbs⟩ ⟨hr.1, hr.2.1⟩ ⟨hs.1, hs.2.1⟩ same'

end SelfDelimiting

end TableModel.Text
