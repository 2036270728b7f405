import Walkthrough.Proofs.Json.Numbers
import Walkthrough.Proofs.Json.Strings
import Walkthrough.Proofs.Value.Entries

/-!
Reading undoes printing: the text of a value without doubles and moments is read as that value, its
entries in their order.
-/
namespace Walkthrough

namespace Json

/-- A value that JSON has a text for and that is read within a depth: integers are not too long, the
keys of an object differ, and there are no doubles or moments. -/
inductive Writable : Nat → Value → Prop
  | null {d} : Writable d .null
  | bool {d} (b : Bool) : Writable d (.bool b)
  | int {d n} (digits : (Nat.toDigits 10 n.natAbs).length ≤ Number.maxDigits) : Writable d (.int n)
  | text {d} (s : String) : Writable d (.text s)
  | list {d vs} (items : ∀ v ∈ vs, Writable d v) : Writable (d + 1) (.list vs)
  | object {d es} (keys : (Entries.keys es).Nodup) (values : ∀ e ∈ es, Writable d e.2) :
      Writable (d + 1) (.object es)

variable {d fuel depth : Nat} {v : Value} {c : Char} {cs rest : List Char}

/-- The characters that a text of JSON may begin with. -/
def Begins (c : Char) : Prop := c ∈ ['n', 't', 'f', '-', '"', '[', '\x7b'] ∨ c.isDigit = true

theorem Begins.ne (h : Begins c) (c' : Char)
    (h' : c' ∉ ['n', 't', 'f', '-', '"', '[', '\x7b'] ∧ c'.isDigit = false) : c ≠ c' := by
  rintro rfl
  rcases h with h | h
  · exact h'.1 h
  · rw [h'.2] at h
    cases h

theorem Begins.isSpace (h : Begins c) : isSpace c = false := by
  simp [Json.isSpace, h.ne ' ' (by decide), h.ne '\t' (by decide), h.ne '\n' (by decide),
    h.ne '\r' (by decide)]

theorem Writable.print_begins (h : Writable d v) : ∃ c cs, print v = c :: cs ∧ Begins c := by
  cases h with
  | null => exact ⟨_, _, rfl, .inl (by decide)⟩
  | bool b => cases b <;> exact ⟨_, _, rfl, .inl (by decide)⟩
  | @int _ n digits =>
    obtain ⟨c, ds, -, hc, ⟨h, -⟩ | ⟨h, -⟩⟩ := Number.integerText_cases n
    · exact ⟨c, ds, by rw [print, h], .inr hc⟩
    · exact ⟨'-', c :: ds, by rw [print, h], .inl (by decide)⟩
  | text s => exact ⟨_, _, rfl, .inl (by decide)⟩
  | @list _ vs items =>
    cases vs <;> exact ⟨_, _, rfl, .inl (by decide)⟩
  | @object _ es keys values =>
    rcases es with _ | ⟨⟨k, v⟩, es⟩ <;> exact ⟨_, _, rfl, .inl (by decide)⟩

theorem skipSpace_cons (h : isSpace c = false) : skipSpace (c :: cs) = c :: cs := by
  simp [skipSpace, h]

theorem skipSpace_space : skipSpace (' ' :: cs) = skipSpace cs := rfl

theorem Writable.skipSpace_print (h : Writable d v) (rest : List Char) :
    skipSpace (print v ++ rest) = print v ++ rest := by
  obtain ⟨c, cs, hprint, hc⟩ := h.print_begins
  rw [hprint, List.cons_append, skipSpace_cons hc.isSpace]

/-- A numeral begins with a digit, or with a minus before one; no word and no string does. -/
theorem integerText_begins {n : Int} (h : Number.integerText n ++ rest = c :: cs) :
    c.isDigit = true ∨ c = '-' ∧ ∀ c' cs', cs = c' :: cs' → c'.isDigit = true := by
  obtain ⟨d, ds, -, hd, ⟨htext, -⟩ | ⟨htext, -⟩⟩ := Number.integerText_cases n
  · rw [htext] at h
    obtain ⟨rfl, -⟩ := List.cons.inj h
    exact .inl hd
  · rw [htext] at h
    obtain ⟨rfl, rfl⟩ := List.cons.inj h
    refine .inr ⟨rfl, fun c' cs' h' => ?_⟩
    obtain ⟨rfl, -⟩ := List.cons.inj h'
    exact hd

theorem readScalar_integerText {n : Int}
    (hn : (Nat.toDigits 10 n.natAbs).length ≤ Number.maxDigits) (h : EndsNumber rest) :
    readScalar (Number.integerText n ++ rest) = .ok (.int n, rest) := by
  have hread := readNumber?_integerText hn h
  unfold readScalar
  split
  case h_7 heq =>
    -- a minus before infinity
    rcases integerText_begins heq with hdigit | ⟨-, hnext⟩
    · cases hdigit
    · cases hnext _ _ rfl
  case h_8 => rw [hread]
  all_goals
    next heq =>
      rcases integerText_begins heq with hdigit | ⟨hminus, -⟩
      · cases hdigit
      · cases hminus

theorem readString_printString (whole cs rest : List Char) :
    readString whole [] (cs.flatMap printChar ++ ['"'] ++ rest) = .ok (cs, rest) := by
  rw [List.append_assoc, List.singleton_append, readString_print]
  rfl

theorem readValue_scalar (hlist : cs.head? ≠ some '[') (hobject : cs.head? ≠ some '\x7b') :
    readValue (fuel + 1) depth cs = readScalar cs := by
  rw [readValue]
  · rintro rest rfl
    exact hlist rfl
  · rintro rest rfl
    exact hobject rfl

/-- The text of a value is read as that value, within a depth and before whatever may follow. -/
def Reads (depth : Nat) (v : Value) : Prop :=
  ∀ fuel rest, 2 * (print v).length ≤ fuel → EndsNumber rest →
    readValue fuel depth (print v ++ rest) = .ok (v, rest)

theorem endsNumber_cons (h : c ∈ [',', ']', '\x7d']) : EndsNumber (c :: rest) := by
  rintro _ ⟨⟩
  simp only [List.mem_cons, List.not_mem_nil, or_false] at h
  rcases h with rfl | rfl | rfl
  · exact ⟨rfl, by decide, by decide, by decide⟩
  · exact ⟨rfl, by decide, by decide, by decide⟩
  · exact ⟨rfl, by decide, by decide, by decide⟩

theorem endsNumber_printItems (vs : List Value) (rest : List Char) :
    EndsNumber (printItems vs ++ rest) := by
  cases vs with
  | nil => exact endsNumber_cons (by decide)
  | cons v vs => exact endsNumber_cons (by decide)

theorem endsNumber_printEntries (es : Entries) (rest : List Char) :
    EndsNumber (printEntries es ++ rest) := by
  rcases es with _ | ⟨⟨k, v⟩, es⟩
  · exact endsNumber_cons (by decide)
  · exact endsNumber_cons (by decide)

/-- The items of a list are read one after the other, up to the closing bracket. -/
theorem readItems_print {vs : List Value} (hvs : ∀ w ∈ v :: vs, Writable d w)
    (hreads : ∀ w ∈ v :: vs, Reads depth w) (acc : List Value) (fuel : Nat)
    (hfuel : 2 * ((print v).length + (printItems vs).length) ≤ fuel) (rest : List Char) :
    readItems fuel depth acc (print v ++ (printItems vs ++ rest)) =
      .ok (.list (acc.reverse ++ v :: vs), rest) := by
  induction vs generalizing v acc fuel with
  | nil =>
    simp only [printItems, List.length_cons, List.length_nil] at hfuel
    obtain ⟨fuel, rfl⟩ : ∃ k, fuel = k + 1 := ⟨fuel - 1, by omega⟩
    have hv := hreads v List.mem_cons_self fuel (printItems [] ++ rest) (by omega)
      (endsNumber_printItems [] rest)
    rw [readItems, hv]
    simp [printItems, skipSpace_cons, isSpace]
  | cons w ws ih =>
    simp only [printItems, List.length_cons, List.length_append] at hfuel
    obtain ⟨fuel, rfl⟩ : ∃ k, fuel = k + 1 := ⟨fuel - 1, by omega⟩
    have hv := hreads v List.mem_cons_self fuel (printItems (w :: ws) ++ rest) (by omega)
      (endsNumber_printItems (w :: ws) rest)
    have hw := hvs w (List.mem_cons_of_mem _ List.mem_cons_self)
    have hws := ih (fun x hx => hvs x (List.mem_cons_of_mem _ hx))
      (fun x hx => hreads x (List.mem_cons_of_mem _ hx)) (v :: acc) fuel (by omega)
    have hsplit : printItems (w :: ws) ++ rest =
        ',' :: ' ' :: (print w ++ (printItems ws ++ rest)) := by
      simp only [printItems, List.cons_append, List.append_assoc]
    rw [readItems, hv, hsplit]
    simp only [skipSpace_cons (show isSpace ',' = false from rfl), skipSpace_space,
      hw.skipSpace_print, hws, List.reverse_cons, List.append_assoc, List.singleton_append]

/-- The last entry of an object is read with the closing brace. -/
theorem readEntries_last {k : String} {acc : Entries} (hv : Writable d v)
    (hread : readValue fuel depth (print v ++ '\x7d' :: rest) = .ok (v, '\x7d' :: rest))
    (hk : k ∉ acc.keys) :
    readEntries (fuel + 1) depth acc
        (printString k.toList ++ ':' :: ' ' :: (print v ++ '\x7d' :: rest)) =
      .ok (.object (acc ++ [(k, v)]), rest) := by
  rw [printString, List.cons_append, List.cons_append, readEntries, readString_printString]
  simp only [skipSpace_cons (show isSpace ':' = false from rfl), skipSpace_space,
    hv.skipSpace_print, hread, skipSpace_cons (show isSpace '\x7d' = false from rfl),
    String.ofList_toList, Entries.set_of_not_mem hk]

/-- Any other entry is read with the comma after it. -/
theorem readEntries_next {k : String} {acc : Entries} (hv : Writable d v)
    (hread : readValue fuel depth (print v ++ ',' :: rest) = .ok (v, ',' :: rest))
    (hk : k ∉ acc.keys) :
    readEntries (fuel + 1) depth acc
        (printString k.toList ++ ':' :: ' ' :: (print v ++ ',' :: rest)) =
      readEntries fuel depth (acc ++ [(k, v)]) (skipSpace rest) := by
  rw [printString, List.cons_append, List.cons_append, readEntries, readString_printString]
  simp only [skipSpace_cons (show isSpace ':' = false from rfl), skipSpace_space,
    hv.skipSpace_print, hread, skipSpace_cons (show isSpace ',' = false from rfl),
    String.ofList_toList, Entries.set_of_not_mem hk]

/-- The entries of an object are read one after the other, up to the closing brace. -/
theorem readEntries_print {k : String} {es : Entries} (hes : ∀ e ∈ (k, v) :: es, Writable d e.2)
    (hreads : ∀ e ∈ (k, v) :: es, Reads depth e.2) (acc : Entries) (fuel : Nat)
    (hkeys : (Entries.keys (acc ++ (k, v) :: es)).Nodup)
    (hfuel : 2 * ((printString k.toList).length + (print v).length +
      (printEntries es).length) ≤ fuel) (rest : List Char) :
    readEntries fuel depth acc
        (printString k.toList ++ ':' :: ' ' :: (print v ++ (printEntries es ++ rest))) =
      .ok (.object (acc ++ (k, v) :: es), rest) := by
  induction es generalizing k v acc fuel with
  | nil =>
    simp only [printEntries, List.length_cons, List.length_nil] at hfuel
    obtain ⟨fuel, rfl⟩ : ∃ n, fuel = n + 1 := ⟨fuel - 1, by omega⟩
    have hv : Reads depth v := hreads _ List.mem_cons_self
    have hread := hv fuel (printEntries [] ++ rest) (by omega) (endsNumber_printEntries [] rest)
    exact readEntries_last (hes _ List.mem_cons_self) hread (Entries.not_mem_keys_of_nodup hkeys)
  | cons e es ih =>
    obtain ⟨k', v'⟩ := e
    simp only [printEntries, List.length_cons, List.length_append] at hfuel
    obtain ⟨fuel, rfl⟩ : ∃ n, fuel = n + 1 := ⟨fuel - 1, by omega⟩
    have hv : Reads depth v := hreads _ List.mem_cons_self
    have hread := hv fuel (printEntries ((k', v') :: es) ++ rest) (by omega)
      (endsNumber_printEntries ((k', v') :: es) rest)
    have hkeys' : (Entries.keys ((acc ++ [(k, v)]) ++ (k', v') :: es)).Nodup := by
      rwa [List.append_assoc, List.singleton_append]
    have hrest := ih (fun x hx => hes x (List.mem_cons_of_mem _ hx))
      (fun x hx => hreads x (List.mem_cons_of_mem _ hx)) (acc ++ [(k, v)]) fuel hkeys'
      (by omega)
    have hsplit : printEntries ((k', v') :: es) ++ rest = ',' :: ' ' ::
        (printString k'.toList ++ ':' :: ' ' :: (print v' ++ (printEntries es ++ rest))) := by
      simp only [printEntries, List.cons_append, List.append_assoc]
    have hquote : skipSpace (printString k'.toList ++
        ':' :: ' ' :: (print v' ++ (printEntries es ++ rest))) = printString k'.toList ++
        ':' :: ' ' :: (print v' ++ (printEntries es ++ rest)) := skipSpace_cons rfl
    rw [hsplit] at hread ⊢
    rw [readEntries_next (hes _ List.mem_cons_self) hread (Entries.not_mem_keys_of_nodup hkeys),
      skipSpace_space, hquote, hrest, List.append_assoc, List.singleton_append]

theorem reads_of_readScalar (hprint : print v = c :: cs) (hlist : c ≠ '[') (hobject : c ≠ '\x7b')
    (h : ∀ rest, EndsNumber rest → readScalar (print v ++ rest) = .ok (v, rest)) (depth : Nat) :
    Reads depth v := by
  intro fuel rest hfuel hrest
  rw [hprint, List.length_cons] at hfuel
  obtain ⟨fuel, rfl⟩ : ∃ n, fuel = n + 1 := ⟨fuel - 1, by omega⟩
  rw [readValue_scalar, h rest hrest]
  · simpa [hprint] using hlist
  · simpa [hprint] using hobject

theorem readValue_items (hv : Writable d v) (rest : List Char) :
    readValue (fuel + 1) (depth + 1) ('[' :: (print v ++ rest)) =
      readItems fuel depth [] (print v ++ rest) := by
  obtain ⟨c, cs, hprint, hc⟩ := hv.print_begins
  have hclose : c ≠ ']' := hc.ne ']' (by decide)
  rw [readValue, hv.skipSpace_print, hprint]
  split
  next heq => exact absurd (List.cons.inj heq).1 hclose
  next => rfl

theorem readValue_entries (key rest : List Char) :
    readValue (fuel + 1) (depth + 1) ('\x7b' :: (printString key ++ rest)) =
      readEntries fuel depth [] (printString key ++ rest) := by
  rw [readValue, printString, List.cons_append, List.cons_append, skipSpace_cons rfl]
  rfl

/-- What is printed of a value is read as that value, its entries in their order. -/
theorem Writable.reads {d : Nat} {v : Value} (h : Writable d v) :
    ∀ {depth}, d ≤ depth → Reads depth v := by
  induction h with
  | null =>
    intro depth _
    exact reads_of_readScalar rfl (by decide) (by decide) (fun _ _ => rfl) depth
  | bool b =>
    intro depth _
    cases b
    · exact reads_of_readScalar rfl (by decide) (by decide) (fun _ _ => rfl) depth
    · exact reads_of_readScalar rfl (by decide) (by decide) (fun _ _ => rfl) depth
  | @int d n digits =>
    intro depth _
    have hread : ∀ rest, EndsNumber rest →
        readScalar (print (.int n) ++ rest) = .ok (.int n, rest) :=
      fun rest hrest => readScalar_integerText digits hrest
    obtain ⟨c, ds, -, hc, ⟨htext, -⟩ | ⟨htext, -⟩⟩ := Number.integerText_cases n
    · have hprint : print (.int n) = c :: ds := by rw [print, htext]
      refine reads_of_readScalar hprint ?_ ?_ hread depth
      · rintro rfl
        cases hc
      · rintro rfl
        cases hc
    · exact reads_of_readScalar (by rw [print, htext]) (by decide) (by decide) hread depth
  | text s =>
    intro depth _
    refine reads_of_readScalar rfl (by decide) (by decide) (fun rest _ => ?_) depth
    simp only [print, printString, List.cons_append, readScalar, readString_printString,
      String.ofList_toList]
  | @list d vs items ih =>
    intro depth hdepth fuel rest hfuel hrest
    obtain ⟨depth, rfl⟩ : ∃ n, depth = n + 1 := ⟨depth - 1, by omega⟩
    cases vs with
    | nil =>
      simp only [print, List.length_cons, List.length_nil] at hfuel
      obtain ⟨fuel, rfl⟩ : ∃ n, fuel = n + 1 := ⟨fuel - 1, by omega⟩
      rfl
    | cons v vs =>
      simp only [print, List.length_cons, List.length_append] at hfuel
      obtain ⟨fuel, rfl⟩ : ∃ n, fuel = n + 1 := ⟨fuel - 1, by omega⟩
      have hreads : ∀ w ∈ v :: vs, Reads depth w := fun w hw => ih w hw (by omega)
      have hitems := readItems_print items hreads [] fuel (by omega) rest
      rw [print, List.cons_append, List.cons_append, List.append_assoc,
        readValue_items (items v List.mem_cons_self), hitems]
      rfl
  | @object d es keys values ih =>
    intro depth hdepth fuel rest hfuel hrest
    obtain ⟨depth, rfl⟩ : ∃ n, depth = n + 1 := ⟨depth - 1, by omega⟩
    rcases es with _ | ⟨⟨k, v⟩, es⟩
    · simp only [print, List.length_cons, List.length_nil] at hfuel
      obtain ⟨fuel, rfl⟩ : ∃ n, fuel = n + 1 := ⟨fuel - 1, by omega⟩
      rfl
    · simp only [print, List.length_cons, List.length_append] at hfuel
      obtain ⟨fuel, rfl⟩ : ∃ n, fuel = n + 1 := ⟨fuel - 1, by omega⟩
      have hreads : ∀ e ∈ (k, v) :: es, Reads depth e.2 := fun e he => ih e he (by omega)
      have hentries := readEntries_print values hreads [] fuel keys (by omega) rest
      have hsplit : print (.object ((k, v) :: es)) ++ rest = '\x7b' ::
          (printString k.toList ++ ':' :: ' ' :: (print v ++ (printEntries es ++ rest))) := by
        simp only [print, List.cons_append, List.append_assoc]
      rw [hsplit, readValue_entries, hentries]
      rfl

/-- The text of a value that is not nested too deep is read as that value. -/
theorem read_print (h : Writable maxDepth v) : read (print v) = .ok v := by
  have hvalue := h.reads (Nat.le_refl maxDepth) (2 * (print v).length + 2) [] (by omega)
    (by rintro c ⟨⟩)
  have hspace := h.skipSpace_print []
  rw [List.append_nil] at hvalue hspace
  obtain ⟨c, cs, hprint, hc⟩ := h.print_begins
  have hmark : c ≠ '\uFEFF' := hc.ne '\uFEFF' (by decide)
  unfold read readWithin
  dsimp only
  split
  next heq =>
    rw [hprint] at heq
    exact absurd (List.cons.inj heq).1 hmark
  next => rw [hspace, hvalue]; rfl

end Json

end Walkthrough
