import EdgeRender.Proofs.Json.Typed

/-! # Readers step by step

Behind a text, a reader goes on as another reader. Such steps are put one after another, up to
the reader that gives the result, or to one that stops. What a step does may hang on what comes
after its text: `Becomes` and `Stops` hold for every rest that has a property.
-/
namespace EdgeRender.Json

/-- Where `P` holds of the rest, the reader takes the bytes of the text and goes on as `r'`. -/
def Becomes (P : List UInt8 → Prop) (r : Reader α) (text : List UInt8) (r' : Reader α) : Prop :=
  ∀ place rest, P rest → r ⟨place, text ++ rest⟩ = r' ⟨place.over text, rest⟩

/-- Where `P` holds of the rest, the reader stops at the text or behind it. -/
def Stops (P : List UInt8 → Prop) (r : Reader α) (text : List UInt8) : Prop :=
  ∀ place rest, P rest → ∃ stop, r ⟨place, text ++ rest⟩ = .error stop

/-- The reader stops wherever it is. -/
def AlwaysStops (r : Reader α) : Prop := ∀ c, ∃ stop, r c = .error stop

def Any (_ : List UInt8) : Prop := True

def Begins (b : UInt8) (rest : List UInt8) : Prop := rest.head? = some b

theorem begins_cons (b : UInt8) (rest : List UInt8) : Begins b (b :: rest) := rfl

theorem Begins.exists_cons {b : UInt8} {rest : List UInt8} (h : Begins b rest) :
    ∃ more, rest = b :: more := by
  cases rest with
  | nil => cases h
  | cons b' more => exact ⟨more, by rw [Option.some.inj h]⟩

variable {P Q : List UInt8 → Prop} {r r' r'' : Reader α} {text text' : List UInt8} {x : α}

theorem Becomes.refl (P : List UInt8 → Prop) (r : Reader α) : Becomes P r [] r := fun _ _ _ => rfl

/-- One step after another. -/
theorem Becomes.trans (h : Becomes P r text r') (h' : Becomes Q r' text' r'')
    (hrest : ∀ rest, Q rest → P (text' ++ rest)) : Becomes Q r (text ++ text') r'' := by
  intro place rest hQ
  rw [List.append_assoc, h place _ (hrest rest hQ), h' _ _ hQ, Place.over_append]

theorem Becomes.mono (h : Becomes P r text r') (hPQ : ∀ rest, Q rest → P rest) :
    Becomes Q r text r' :=
  fun place rest hQ => h place rest (hPQ rest hQ)

/-- A reader that gives a value hands it on. -/
theorem Becomes.bind {f : α → Reader β} (h : Becomes P r text (pure x)) :
    Becomes P (r >>= f) text (f x) := by
  intro place rest hP
  exact bind_of_ok (h place rest hP)

/-- What comes behind a reader comes behind the one that it goes on as. -/
theorem Becomes.before (h : Becomes P r text r') (f : α → Reader β) :
    Becomes P (r >>= f) text (r' >>= f) := by
  intro place rest hP
  show Except.bind (r _) _ = Except.bind (r' _) _
  rw [h place rest hP]

theorem Becomes.map {f : α → β} (h : Becomes P r text (pure x)) :
    Becomes P (f <$> r) text (pure (f x)) := by
  intro place rest hP
  exact map_of_ok (h place rest hP)

theorem Consumes.becomes (h : Consumes r text x) : Becomes Any r text (pure x) :=
  fun place rest _ => h place rest

/-- What goes on as a reader that stops, stops. -/
theorem Becomes.stops (h : Becomes P r text r') (h' : Stops Q r' text')
    (hrest : ∀ rest, Q rest → P (text' ++ rest)) : Stops Q r (text ++ text') := by
  intro place rest hQ
  rw [List.append_assoc, h place _ (hrest rest hQ)]
  exact h' _ _ hQ

theorem error_bind {f : α → Reader β} {c : Cursor} (h : ∃ stop, r c = .error stop) :
    ∃ stop, (r >>= f) c = .error stop := by
  obtain ⟨stop, hstop⟩ := h
  refine ⟨stop, ?_⟩
  show Except.bind (r c) _ = _
  rw [hstop]
  rfl

theorem Stops.bind (h : Stops P r text) (f : α → Reader β) : Stops P (r >>= f) text :=
  fun place rest hP => error_bind (h place rest hP)

theorem Stops.map (h : Stops P r text) (f : α → β) : Stops P (f <$> r) text := by
  rw [map_eq_pure_bind]
  exact h.bind _

/-- A reader that stops before it has seen all of a text stops at the text. -/
theorem Stops.append (h : Stops P r text) (hrest : ∀ rest, Q rest → P (text' ++ rest)) :
    Stops Q r (text ++ text') := by
  intro place rest hQ
  rw [List.append_assoc]
  exact h place _ (hrest rest hQ)

theorem Stops.mono (h : Stops P r text) (hPQ : ∀ rest, Q rest → P rest) : Stops Q r text :=
  fun place rest hQ => h place rest (hPQ rest hQ)

theorem AlwaysStops.stops (h : AlwaysStops r) (P : List UInt8 → Prop) (text : List UInt8) :
    Stops P r text :=
  fun _ _ _ => h _

theorem alwaysStops_refuse (fault : Fault) : AlwaysStops (refuse fault : Reader α) :=
  fun _ => ⟨_, rfl⟩

theorem alwaysStops_refuseNext (fault : Fault) : AlwaysStops (refuseNext fault : Reader α) :=
  fun _ => ⟨_, rfl⟩

theorem AlwaysStops.bind {f : α → Reader β} (h : ∀ x, AlwaysStops (f x)) :
    AlwaysStops (r >>= f) := by
  intro c
  show ∃ stop, Except.bind (r c) (fun a => f a.1 a.2) = .error stop
  cases r c with
  | error stop => exact ⟨stop, rfl⟩
  | ok a => exact h a.1 a.2

/-- Over the text, the reader gives a value and leaves the rest, or else it stops. -/
def Ends (P : List UInt8 → Prop) (r : Reader α) (text : List UInt8) : Option α → Prop
  | some x => Becomes P r text (pure x)
  | none => Stops P r text

theorem AlwaysStops.ends (h : AlwaysStops r) (P : List UInt8 → Prop) (text : List UInt8) :
    Ends P r text none :=
  h.stops P text

theorem Ends.mono {x? : Option α} (h : Ends P r text x?) (hPQ : ∀ rest, Q rest → P rest) :
    Ends Q r text x? := by
  cases x? with
  | none => exact Stops.mono h hPQ
  | some x => exact Becomes.mono h hPQ

/-- What a reader goes on as ends it. -/
theorem Becomes.ends {x? : Option α} (h : Becomes P r text r') (h' : Ends Q r' text' x?)
    (hrest : ∀ rest, Q rest → P (text' ++ rest)) : Ends Q r (text ++ text') x? := by
  cases x? with
  | none => exact h.stops h' hrest
  | some x => exact h.trans h' hrest

theorem Ends.map {x? : Option α} (h : Ends P r text x?) (f : α → β) :
    Ends P (f <$> r) text (f <$> x?) := by
  cases x? with
  | none => exact Stops.map h f
  | some x => exact Becomes.map h

theorem Ends.bind {f : α → Reader β} {x? : Option α} {g : α → Option β} (h : Ends P r text x?)
    (h' : ∀ x, Ends Q (f x) text' (g x)) (hrest : ∀ rest, Q rest → P (text' ++ rest)) :
    Ends Q (r >>= f) (text ++ text') (x?.bind g) := by
  cases x? with
  | none => exact (Stops.bind h f).append hrest
  | some x => exact (Becomes.bind h).ends (h' x) hrest

/-- What is made of a value may also be to stop, with nothing more read. -/
theorem Ends.bindEnd {f : α → Reader β} {x? : Option α} {g : α → Option β} (h : Ends P r text x?)
    (h' : ∀ x, Ends P (f x) [] (g x)) : Ends P (r >>= f) text (x?.bind g) := by
  have hends := h.bind h' fun _ => id
  rwa [List.append_nil] at hends

/-! ## Bytes and blanks -/

section Bytes

variable {f : Option UInt8 → Reader α} {gap : List UInt8} {b : UInt8}

theorem becomes_skipByte (b : UInt8) : Becomes Any skipByte [b] (pure ()) := fun _ _ _ => rfl

theorem becomes_next? (b : UInt8) : Becomes Any next? [b] (pure (some b)) := fun _ _ _ => rfl

theorem becomes_peek? (b : UInt8) : Becomes (Begins b) peek? [] (pure (some b)) := by
  intro place rest hb
  show (Except.ok (rest.head?, (⟨place, rest⟩ : Cursor)) : Except Stop _) = _
  rw [hb]
  rfl

/-- A byte that is not blank is met behind blanks. -/
theorem becomes_peekToken? (hgap : ∀ b ∈ gap, isBlankByte b = true) (hb : isBlankByte b = false) :
    Becomes (Begins b) peekToken? gap (pure (some b)) := by
  intro place rest hrest
  have hskip : skipBlanks ⟨place, gap ++ rest⟩ = .ok ((), ⟨place.over gap, rest⟩) := by
    unfold skipBlanks
    rw [skipWhileFrom_append hgap]
    intro b' hb'
    obtain rfl : b = b' := Option.some.inj (hrest.symm.trans hb')
    exact hb
  exact (bind_of_ok hskip).trans (becomes_peek? b (place.over gap) rest hrest)

theorem becomes_peekValue (hgap : ∀ b ∈ gap, isBlankByte b = true) (hb : isBlankByte b = false) :
    Becomes (Begins b) peekValue gap (pure b) :=
  (becomes_peekToken? hgap hb).bind

/-- The text is among the bytes left. -/
theorem Becomes.left {f : Nat → Reader α} (h : ∀ n, text.length ≤ n → Becomes P (f n) text r') :
    Becomes P (bytesLeft >>= f) text r' := by
  intro place rest hP
  have hleft : bytesLeft ⟨place, text ++ rest⟩ =
      .ok ((text ++ rest).length, ⟨place, text ++ rest⟩) := rfl
  rw [bind_of_ok hleft]
  exact h _ (by simp) place rest hP

theorem Stops.left {f : Nat → Reader α} (h : ∀ n, text.length ≤ n → Stops P (f n) text) :
    Stops P (bytesLeft >>= f) text := by
  intro place rest hP
  have hleft : bytesLeft ⟨place, text ++ rest⟩ =
      .ok ((text ++ rest).length, ⟨place, text ++ rest⟩) := rfl
  rw [bind_of_ok hleft]
  exact h _ (by simp) place rest hP

theorem Becomes.skip {f : Unit → Reader α} (h : Becomes P (f ()) text r') :
    Becomes P (skipByte >>= f) (b :: text) r' :=
  (becomes_skipByte b).bind.trans h fun _ _ => trivial

theorem Becomes.next (h : Becomes P (f (some b)) text r') :
    Becomes P (next? >>= f) (b :: text) r' :=
  (becomes_next? b).bind.trans h fun _ _ => trivial

theorem Becomes.peek (hb : ∀ rest, P rest → Begins b (text ++ rest))
    (h : Becomes P (f (some b)) text r') : Becomes P (peek? >>= f) text r' :=
  (becomes_peek? b).bind.trans h hb

theorem Becomes.token (hgap : ∀ b ∈ gap, isBlankByte b = true) (hb : isBlankByte b = false)
    (hbegins : ∀ rest, P rest → Begins b (text ++ rest)) (h : Becomes P (f (some b)) text r') :
    Becomes P (peekToken? >>= f) (gap ++ text) r' :=
  (becomes_peekToken? hgap hb).bind.trans h hbegins

theorem Becomes.value {f : UInt8 → Reader α} (hgap : ∀ b ∈ gap, isBlankByte b = true)
    (hb : isBlankByte b = false) (hbegins : ∀ rest, P rest → Begins b (text ++ rest))
    (h : Becomes P (f b) text r') : Becomes P (peekValue >>= f) (gap ++ text) r' :=
  (becomes_peekValue hgap hb).bind.trans h hbegins

theorem Stops.next (h : Stops P (f (some b)) text) : Stops P (next? >>= f) (b :: text) :=
  (becomes_next? b).bind.stops h fun _ _ => trivial

section Ends

variable {x? : Option α}

theorem Ends.skip {f : Unit → Reader α} (h : Ends P (f ()) text x?) :
    Ends P (skipByte >>= f) (b :: text) x? :=
  (becomes_skipByte b).bind.ends h fun _ _ => trivial

theorem Ends.token (hgap : ∀ b ∈ gap, isBlankByte b = true) (hb : isBlankByte b = false)
    (hbegins : ∀ rest, P rest → Begins b (text ++ rest)) (h : Ends P (f (some b)) text x?) :
    Ends P (peekToken? >>= f) (gap ++ text) x? :=
  (becomes_peekToken? hgap hb).bind.ends h hbegins

theorem Ends.value {f : UInt8 → Reader α} (hgap : ∀ b ∈ gap, isBlankByte b = true)
    (hb : isBlankByte b = false) (hbegins : ∀ rest, P rest → Begins b (text ++ rest))
    (h : Ends P (f b) text x?) : Ends P (peekValue >>= f) (gap ++ text) x? :=
  (becomes_peekValue hgap hb).bind.ends h hbegins

theorem Ends.left {f : Nat → Reader α} (h : ∀ n, text.length ≤ n → Ends P (f n) text x?) :
    Ends P (bytesLeft >>= f) text x? := by
  cases x? with
  | none => exact Stops.left h
  | some x => exact Becomes.left h

end Ends
end Bytes
end EdgeRender.Json
