import EnvMonitor.Gateway.CloudPublisher.Published

/-!
# A row of appends

What the calls of a serialiser leave in the buffer: the texts one behind the other as long as they
fit, and never anything beyond the size.
-/

namespace EnvMonitor.Gateway.CloudPublisher.Published

open JsonText

section PutText

variable {buf text : List UInt8} {pos : Nat}

theorem putText_length (h : pos + text.length ≤ buf.length) :
    (putText buf pos text).length = buf.length := by
  unfold putText
  simp only [List.length_append, List.length_take, List.length_drop]
  omega

theorem putText_take (h : pos + text.length ≤ buf.length) :
    (putText buf pos text).take (pos + text.length) = buf.take pos ++ text := by
  unfold putText
  apply List.take_left'
  rw [List.length_append, List.length_take]
  omega

theorem putText_drop {size : Nat} (h : pos + text.length ≤ buf.length)
    (hsize : pos + text.length ≤ size) : (putText buf pos text).drop size = buf.drop size := by
  have hlen : (buf.take pos ++ text).length = pos + text.length := by
    rw [List.length_append, List.length_take]
    omega
  unfold putText
  rw [List.drop_append, hlen, List.drop_eq_nil_of_le (by omega), List.nil_append, List.drop_drop]
  congr 1
  omega

end PutText

/-- Nothing beyond the size is changed. -/
structure Kept (size : Nat) (start buf : List UInt8) : Prop where
  beyond : buf.drop size = start.drop size
  whole : buf.length = start.length

/-- The buffer starts with the text. -/
structure Written (size : Nat) (start buf text : List UInt8) : Prop
    extends Kept size start buf where
  short : text.length < size
  front : buf.take text.length = text

variable {size : Nat} {start buf text : List UInt8}

theorem Written.nothing (hsize : 1 ≤ size) (start : List UInt8) : Written size start start [] :=
  ⟨⟨rfl, rfl⟩, hsize, List.take_zero⟩

theorem Written.put (h : Written size start buf text) (hroom : size ≤ start.length)
    (more : List UInt8) (hmore : text.length + more.length ≤ size) :
    Kept size start (putText buf text.length more) ∧
      (putText buf text.length more).take (text.length + more.length) = text ++ more := by
  have hfits : text.length + more.length ≤ buf.length := by
    rw [h.whole]
    omega
  refine ⟨⟨?_, ?_⟩, ?_⟩
  · rw [putText_drop hfits hmore, h.beyond]
  · rw [putText_length hfits, h.whole]
  · rw [putText_take hfits, h.front]

variable {more : List UInt8}

theorem Written.append (h : Written size start buf text) (hroom : size ≤ start.length)
    (hfits : (text ++ more).length < size) :
    exists buf', prvAppend size buf text.length more = (buf', some (text ++ more).length) ∧
      Written size start buf' (text ++ more) := by
  rw [List.length_append] at hfits
  have hput := h.put hroom (more ++ [0]) (by rw [List.length_append, List.length_singleton]; omega)
  refine ⟨putText buf text.length (more ++ [0]), ?_, hput.1, ?_, ?_⟩
  · unfold prvAppend
    rw [if_neg (by omega), List.length_append]
  · rw [List.length_append]
    exact hfits
  · have htake := congrArg (List.take (text ++ more).length) hput.2
    rw [List.take_take, ← List.append_assoc, List.take_left, List.length_append,
      List.length_append, List.length_singleton, Nat.min_eq_left (by omega)] at htake
    rw [List.length_append]
    exact htake

theorem Written.stop (h : Written size start buf text) (hroom : size ≤ start.length)
    (hlong : size ≤ (text ++ more).length) :
    exists buf', prvAppend size buf text.length more = (buf', none) ∧ Kept size start buf' := by
  have hshort := h.short
  rw [List.length_append] at hlong
  have hput := h.put hroom (more.take (size - text.length - 1) ++ [0]) (by
    rw [List.length_append, List.length_take, List.length_singleton]
    omega)
  refine ⟨putText buf text.length (more.take (size - text.length - 1) ++ [0]), ?_, hput.1⟩
  unfold prvAppend
  rw [if_pos (by omega)]

/-!
## The whole row
-/

theorem appendAll_fits (texts : List (List UInt8)) (calls : List AppendCall)
    (hroom : size ≤ start.length) (h : Written size start buf text)
    (hfits : (text ++ texts.flatten).length < size) :
    exists buf', Written size start buf' (text ++ texts.flatten) ∧
      appendAll size (texts.map some ++ calls) buf text.length =
        appendAll size calls buf' (text ++ texts.flatten).length := by
  induction texts generalizing buf text with
  | nil =>
      rw [List.flatten_nil, List.append_nil]
      exact ⟨buf, h, rfl⟩
  | cons more texts ih =>
      rw [List.flatten_cons, ← List.append_assoc] at hfits ⊢
      have hfirst : (text ++ more).length < size := by
        rw [List.length_append] at hfits
        omega
      rcases h.append hroom hfirst with ⟨next, hcall, hnext⟩
      rcases ih hnext hfits with ⟨last, hlast, hrest⟩
      refine ⟨last, hlast, ?_⟩
      rw [List.map_cons, List.cons_append, appendAll, hcall]
      exact hrest

theorem appendAll_stops (texts : List (List UInt8)) (hroom : size ≤ start.length)
    (h : Written size start buf text) (hlong : size ≤ (text ++ texts.flatten).length) :
    exists buf', Kept size start buf' ∧
      appendAll size (texts.map some) buf text.length = some (buf', none) := by
  induction texts generalizing buf text with
  | nil =>
      have hshort := h.short
      rw [List.flatten_nil, List.append_nil] at hlong
      omega
  | cons more texts ih =>
      by_cases hfirst : (text ++ more).length < size
      · rcases h.append hroom hfirst with ⟨next, hcall, hnext⟩
        rw [List.flatten_cons, ← List.append_assoc] at hlong
        rcases ih hnext hlong with ⟨last, hlast, hrest⟩
        refine ⟨last, hlast, ?_⟩
        rw [List.map_cons, appendAll, hcall]
        exact hrest
      · rcases h.stop hroom (Nat.le_of_not_lt hfirst) with ⟨last, hcall, hlast⟩
        refine ⟨last, hlast, ?_⟩
        rw [List.map_cons, appendAll, hcall]

theorem serialise_undefined {texts : List (List UInt8)} (calls : List AppendCall)
    (hroom : size ≤ start.length) (hfits : texts.flatten.length < size) :
    serialise size start (texts.map some ++ none :: calls) = none := by
  have hsize : 1 ≤ size := Nat.lt_of_le_of_lt (Nat.zero_le _) hfits
  rcases appendAll_fits texts (none :: calls) hroom (Written.nothing hsize start) hfits with
    ⟨buf, _, hrun⟩
  unfold serialise
  rw [List.length_nil] at hrun
  rw [hrun]
  rfl

/-- What a serialiser whose texts are all defined returns. -/
structure Returned (size : Nat) (start text : List UInt8) (buf : List UInt8) (n : Nat) : Prop
    extends Kept size start buf where
  length_eq : n = if text.length < size then text.length else 0
  text_eq : n ≠ 0 -> buf.take n = text
  ended : n ≠ 0 -> buf[n]? = some 0

theorem serialise_texts (texts : List (List UInt8)) (hsize : 1 ≤ size)
    (hroom : size ≤ start.length) :
    exists buf n, serialise size start (texts.map some) = some (buf, n) ∧
      Returned size start (texts.flatten ++ [0x7D]) buf n := by
  have hlength : (texts.flatten ++ [0x7D]).length = texts.flatten.length + 1 := by
    rw [List.length_append, List.length_singleton]
  by_cases hfits : texts.flatten.length < size
  · rcases appendAll_fits texts [] hroom (Written.nothing hsize start) hfits with
      ⟨buf, hbuf, hrun⟩
    rw [List.append_nil, List.length_nil] at hrun
    change Written size start buf texts.flatten at hbuf
    change _ = some (buf, some texts.flatten.length) at hrun
    by_cases hclose : size < texts.flatten.length + 2
    · refine ⟨buf, 0, ?_, ⟨hbuf.toKept, ?_, fun h => absurd rfl h, fun h => absurd rfl h⟩⟩
      · unfold serialise prvClose
        rw [hrun]
        dsimp only
        rw [if_pos hclose]
      · rw [hlength, if_neg (by omega)]
    · have hput := hbuf.put hroom [0x7D, 0] (by
        rw [List.length_cons, List.length_singleton]
        omega)
      rw [List.length_cons, List.length_singleton] at hput
      refine ⟨putText buf texts.flatten.length [0x7D, 0], texts.flatten.length + 1, ?_,
        ⟨hput.1, ?_, ?_, ?_⟩⟩
      · unfold serialise prvClose
        rw [hrun]
        dsimp only
        rw [if_neg hclose]
      · rw [hlength, if_pos (by omega)]
      · intro _
        have htake := congrArg (List.take (texts.flatten ++ [0x7D]).length) hput.2
        rw [List.take_take, hlength, Nat.min_eq_left (by omega)] at htake
        rw [htake, ← hlength]
        change (texts.flatten ++ ([0x7D] ++ [0])).take _ = _
        rw [← List.append_assoc, List.take_left]
      · intro _
        have hget := congrArg (fun l => l[texts.flatten.length + 1]?) hput.2
        rw [List.getElem?_take_of_lt (by omega),
          List.getElem?_append_right (Nat.le_add_right _ 1), Nat.add_sub_cancel_left] at hget
        exact hget
  · have hlong : size ≤ ([] ++ texts.flatten).length := Nat.le_of_not_lt hfits
    rcases appendAll_stops texts hroom (Written.nothing hsize start) hlong with ⟨buf, hbuf, hrun⟩
    rw [List.length_nil] at hrun
    refine ⟨buf, 0, ?_, ⟨hbuf, ?_, fun h => absurd rfl h, fun h => absurd rfl h⟩⟩
    · unfold serialise
      rw [hrun]
    · rw [hlength, if_neg (by omega)]

end EnvMonitor.Gateway.CloudPublisher.Published
