import ControlPlane.Frame
import Mathlib.Algebra.Group.Nat.Defs
import Mathlib.Data.List.Basic

/-!
# Streams of frames

What is written to a stream can be read from it again. If the stream is cut off somewhere, the
frames that are wholly in front of the cut are read as they were written, and the reader says
whether something is missing, with one exception: behind the length of a frame nothing seems to be
missing as long as no octet of the frame has come.

## Main definitions

- `Frame.accepted`: the frames that a writer does not refuse.
- `Frame.carried`: the octets that carry frames.
- `Frame.Cut`: where a stream of frames is cut off.
- `Frame.ReadsBack`: what becomes of frames that are written and read again.

## Main statements

- `Frame.read_eq_frame_iff`: which streams begin with a frame.
- `Frame.readAll_carried`: frames are read one after another, whatever follows them.
- `Frame.frames_read_back`: what becomes of any frames.
-/

namespace ControlPlane

namespace Frame

theorem effectiveLimit_lt (limit : Nat) : effectiveLimit limit < UInt32.size := by
  have hsize : 0 < UInt32.size := by decide
  rw [effectiveLimit]
  omega

/-- Four octets hold every length that a writer accepts. -/
theorem lengthOf_lengthOctets {n : Nat} (hn : n < UInt32.size) :
    lengthOf (.ofNat (n >>> 24)) (.ofNat (n >>> 16)) (.ofNat (n >>> 8)) (.ofNat n) = n := by
  have hsize : UInt32.size = 4294967296 := rfl
  simp only [lengthOf, UInt8.toNat_ofNat', Nat.shiftRight_eq_div_pow]
  omega

/-- The octets of a length are its only ones. -/
theorem lengthOctets_lengthOf (a b c d : UInt8) :
    lengthOctets (lengthOf a b c d) = [a, b, c, d] := by
  have ha := a.toNat_lt
  have hb := b.toNat_lt
  have hc := c.toNat_lt
  have hd := d.toNat_lt
  have hoctet : ∀ (x : UInt8) (n : Nat), n % 256 = x.toNat → UInt8.ofNat n = x := by
    intro x n hn
    exact UInt8.toNat_inj.1 (UInt8.toNat_ofNat'.trans hn)
  simp only [lengthOctets, lengthOf, Nat.shiftRight_eq_div_pow]
  rw [hoctet a _ (by omega), hoctet b _ (by omega), hoctet c _ (by omega), hoctet d _ (by omega)]

/-- A stream begins with a frame just if it begins with the octets that carry it. -/
theorem read_eq_frame_iff {limit : Nat} {stream octets rest : List UInt8} :
    read limit stream = .frame octets rest ↔
      octets.length ≤ effectiveLimit limit ∧
        stream = lengthOctets octets.length ++ octets ++ rest := by
  constructor
  · intro h
    unfold read at h
    split at h
    · cases h
    · next a b c d tail =>
      dsimp only at h
      split at h
      · cases h
      · next hlimit =>
        split at h
        · next hwhole =>
          cases h
          have hlength : (tail.take (lengthOf a b c d)).length = lengthOf a b c d :=
            List.length_take_of_le hwhole
          rw [hlength, lengthOctets_lengthOf, List.append_assoc, List.take_append_drop]
          exact ⟨Nat.le_of_not_lt hlimit, rfl⟩
        · split at h <;> cases h
    · cases h
  · rintro ⟨hlimit, rfl⟩
    have hn : octets.length < UInt32.size := Nat.lt_of_le_of_lt hlimit (effectiveLimit_lt limit)
    have hwhole : octets.length ≤ (octets ++ rest).length := by
      rw [List.length_append]
      exact Nat.le_add_right ..
    rw [lengthOctets, List.append_assoc]
    simp only [List.cons_append, List.nil_append, read, lengthOf_lengthOctets hn]
    rw [if_neg (Nat.not_lt.2 hlimit), if_pos hwhole, List.take_left, List.drop_left]

end Frame

namespace Frame

variable {limit : Nat} {frame : List UInt8} {frames : List (List UInt8)}

/-! ## Writing -/

/-- The frames that a writer accepts: four octets can hold their length, and they keep to the
limit. -/
def accepted (limit : Nat) (frames : List (List UInt8)) : List (List UInt8) :=
  frames.filter fun frame => frame.length ≤ min limit (2 ^ 32 - 1)

/-- The answer of a writer to a frame. -/
def answer (limit : Nat) (frame : List UInt8) : Except SystemError Unit :=
  if frame.length ≤ min limit (2 ^ 32 - 1) then .ok () else .error tooLongToWrite

/-- The octets that carry frames, one after another. -/
def carried (frames : List (List UInt8)) : List UInt8 :=
  frames.flatMap fun frame => lengthOctets frame.length ++ frame

theorem carried_cons (frame : List UInt8) (rest : List (List UInt8)) :
    carried (frame :: rest) = lengthOctets frame.length ++ frame ++ carried rest :=
  List.flatMap_cons

theorem carried_append (front back : List (List UInt8)) :
    carried (front ++ back) = carried front ++ carried back :=
  List.flatMap_append

theorem effectiveLimit_eq (limit : Nat) : effectiveLimit limit = min limit (2 ^ 32 - 1) := rfl

/-- A frame is added whole or not at all. -/
theorem writeOn_eq (limit : Nat) (stream frame : List UInt8) :
    writeOn limit stream frame =
      (answer limit frame, stream ++ carried (accepted limit [frame])) := by
  by_cases hlong : effectiveLimit limit < frame.length
  · have hlimit : ¬ frame.length ≤ min limit (2 ^ 32 - 1) := Nat.not_le.2 hlong
    have hwrite : write limit frame = .error tooLongToWrite := by
      rw [write, check, if_pos hlong]
      rfl
    have haccepted : accepted limit [frame] = [] :=
      List.filter_cons_of_neg fun hfits => hlimit (of_decide_eq_true hfits)
    rw [writeOn, hwrite, haccepted, answer, if_neg hlimit]
    simp [carried]
  · have hlimit : frame.length ≤ min limit (2 ^ 32 - 1) := Nat.le_of_not_lt hlong
    have hwrite : write limit frame = .ok (lengthOctets frame.length ++ frame) := by
      rw [write, check, if_neg hlong]
      rfl
    have haccepted : accepted limit [frame] = [frame] :=
      List.filter_cons_of_pos (decide_eq_true hlimit)
    rw [writeOn, hwrite, haccepted, answer, if_pos hlimit]
    simp [carried]

theorem writeAll_eq (limit : Nat) (stream : List UInt8) (frames : List (List UInt8)) :
    writeAll limit stream frames =
      (frames.map (answer limit), stream ++ carried (accepted limit frames)) := by
  induction frames generalizing stream with
  | nil => simp [writeAll, accepted, carried]
  | cons frame rest ih =>
    have hsplit : accepted limit (frame :: rest) = accepted limit [frame] ++ accepted limit rest :=
      List.filter_append [frame] rest
    simp only [writeAll, writeOn_eq, ih, hsplit, carried_append, List.map_cons, List.append_assoc]

/-! ## Reading -/

/-- A reader that may read more frames than fit into a stream reads it to its end. -/
theorem readFrom_eq_readAll {fuel : Nat} {stream : List UInt8} (hfuel : stream.length < fuel) :
    readFrom limit fuel stream = readAll limit stream := by
  -- Both readers come to the same rest, which is shorter.
  have hmore : ∀ {m n : Nat} {stream : List UInt8}, stream.length < m → stream.length < n →
      readFrom limit m stream = readFrom limit n stream := by
    intro m
    induction m with
    | zero => exact fun hm => absurd hm (Nat.not_lt_zero _)
    | succ m ih =>
      intro n stream hm hn
      obtain ⟨n, rfl⟩ := Nat.exists_eq_succ_of_ne_zero (Nat.ne_zero_of_lt hn)
      simp only [readFrom]
      cases hread : read limit stream with
      | closed => rfl
      | failed e => rfl
      | frame octets rest =>
        obtain ⟨-, hstream⟩ := read_eq_frame_iff.1 hread
        have hlength : stream.length = 4 + octets.length + rest.length := by
          rw [hstream, List.length_append, List.length_append]
          rfl
        have hm' : rest.length < m := by omega
        have hn' : rest.length < n := by omega
        simp only [ih hm' hn']
  exact hmore hfuel (Nat.lt_succ_self _)

/-- Frames are read one after another; what comes behind them is read as if it stood alone. -/
theorem readAll_carried (hfits : ∀ frame ∈ frames, frame.length ≤ effectiveLimit limit)
    (tail : List UInt8) :
    readAll limit (carried frames ++ tail) = frames.map .ok ++ readAll limit tail := by
  induction frames with
  | nil => rfl
  | cons frame rest ih =>
    obtain ⟨hframe, hrest⟩ := List.forall_mem_cons.1 hfits
    have hread : read limit (carried (frame :: rest) ++ tail) =
        .frame frame (carried rest ++ tail) := by
      refine read_eq_frame_iff.2 ⟨hframe, ?_⟩
      rw [carried_cons, List.append_assoc]
    have hshorter : (carried rest ++ tail).length < (carried (frame :: rest) ++ tail).length := by
      have hfour : (lengthOctets frame.length).length = 4 := rfl
      simp only [carried_cons, List.length_append, hfour]
      omega
    rw [readAll, readFrom, hread]
    simp only [readFrom_eq_readAll hshorter, ih hrest, List.map_cons, List.cons_append]

theorem readAll_of_closed {tail : List UInt8} (h : read limit tail = .closed) :
    readAll limit tail = [.error none] := by
  rw [readAll, readFrom, h]

theorem readAll_of_failed {tail : List UInt8} {e : SystemError} (h : read limit tail = .failed e) :
    readAll limit tail = [.error (some e), .error none] := by
  rw [readAll, readFrom, h]

/-- Behind the length of a frame that is still to come, a stream seems to be closed. -/
theorem read_lengthOctets (hframe : frame.length ≤ effectiveLimit limit) (hne : frame ≠ []) :
    read limit (lengthOctets frame.length) = .closed := by
  have hsize : frame.length < UInt32.size := Nat.lt_of_le_of_lt hframe (effectiveLimit_lt limit)
  have hpos : ¬ frame.length ≤ 0 := by
    rw [Nat.le_zero]
    exact mt List.length_eq_zero_iff.1 hne
  simp only [lengthOctets, read, lengthOf_lengthOctets hsize, List.length_nil]
  rw [if_neg (Nat.not_lt.2 hframe), if_neg hpos]
  rfl

/-- Anywhere else inside a frame it is seen that something is missing. -/
theorem read_part {part more : List UInt8} (hframe : frame.length ≤ effectiveLimit limit)
    (hsplit : lengthOctets frame.length ++ frame = part ++ more) (hpart : part ≠ [])
    (hmore : more ≠ []) (hlength : part.length ≠ 4) : read limit part = .failed truncated := by
  have hsize : frame.length < UInt32.size := Nat.lt_of_le_of_lt hframe (effectiveLimit_lt limit)
  match part, hpart, hlength with
  | [_], _, _ => rfl
  | [_, _], _, _ => rfl
  | [_, _, _], _, _ => rfl
  | a :: b :: c :: d :: tail, _, hlength =>
    -- The length is whole, so the missing octets are those of the frame.
    simp only [lengthOctets, List.cons_append, List.nil_append, List.cons.injEq] at hsplit
    obtain ⟨rfl, rfl, rfl, rfl, rfl⟩ := hsplit
    have htail : tail ≠ [] := by
      rintro rfl
      exact hlength rfl
    have hmissing : ¬ (tail ++ more).length ≤ tail.length := by
      rw [List.length_append]
      have := List.length_pos_iff.2 hmore
      omega
    have hcome : ¬ tail.isEmpty = true := by
      rw [List.isEmpty_iff]
      exact htail
    simp only [read, lengthOf_lengthOctets hsize]
    rw [if_neg (Nat.not_lt.2 hframe), if_neg hmissing, if_neg hcome]

/-! ## Streams that are cut off -/

/-- Where a stream of frames is cut off: the frames that are wholly in front of the cut, the stream
up to it, and the failures that its reader reports behind them. -/
inductive Cut (frames : List (List UInt8)) :
    List (List UInt8) → List UInt8 → List SystemError → Prop
  /-- In front of a frame, or at the end. -/
  | between {whole rest : List (List UInt8)} (h : frames = whole ++ rest) :
      Cut frames whole (carried whole) []
  /-- Right behind the length of a frame that is not empty. -/
  | afterLength {whole rest : List (List UInt8)} {next : List UInt8}
      (h : frames = whole ++ next :: rest) (hne : next ≠ []) :
      Cut frames whole (carried whole ++ lengthOctets next.length) []
  /-- Anywhere else inside what carries a frame. -/
  | inside {whole rest : List (List UInt8)} {next part more : List UInt8}
      (h : frames = whole ++ next :: rest)
      (hsplit : lengthOctets next.length ++ next = part ++ more) (hpart : part ≠ [])
      (hmore : more ≠ []) (hlength : part.length ≠ 4) :
      Cut frames whole (carried whole ++ part) [truncated]

/-- A cut inside of what carries one frame. -/
theorem Cut.exists_of_split {whole rest : List (List UInt8)} {next part more : List UInt8}
    (h : frames = whole ++ next :: rest)
    (hsplit : lengthOctets next.length ++ next = part ++ more) (hmore : more ≠ []) :
    ∃ failures, Cut frames whole (carried whole ++ part) failures := by
  by_cases hpart : part = []
  · subst hpart
    rw [List.append_nil]
    exact ⟨[], .between h⟩
  · by_cases hlength : part.length = 4
    · obtain ⟨rfl, rfl⟩ := List.append_inj hsplit (by rw [hlength]; rfl)
      exact ⟨[], .afterLength h hmore⟩
    · exact ⟨[truncated], .inside h hsplit hpart hmore hlength⟩

/-- Wherever a stream of frames is cut off, it is one of the three. -/
theorem Cut.exists_of_isPrefix {stream : List UInt8} (h : stream <+: carried frames) :
    ∃ whole failures, Cut frames whole stream failures := by
  -- The frames are gone through from the left, with those in front of the cut set apart.
  have hmain : ∀ (rest whole : List (List UInt8)) (part : List UInt8), frames = whole ++ rest →
      part <+: carried rest →
      ∃ whole' failures, Cut frames whole' (carried whole ++ part) failures := by
    intro rest
    induction rest with
    | nil =>
      intro whole part hframes hpart
      obtain rfl := List.prefix_nil.1 hpart
      rw [List.append_nil]
      exact ⟨whole, [], .between hframes⟩
    | cons next rest ih =>
      intro whole part hframes hpart
      rw [carried_cons] at hpart
      by_cases hwhole : lengthOctets next.length ++ next <+: part
      · obtain ⟨part, rfl⟩ := hwhole
        have hnext : carried whole ++ (lengthOctets next.length ++ next ++ part) =
            carried (whole ++ [next]) ++ part := by
          simp [carried]
        rw [hnext]
        refine ih (whole ++ [next]) part (by rw [hframes, List.append_assoc]; rfl) ?_
        exact (List.prefix_append_right_inj _).1 hpart
      · -- The cut falls into what carries the next frame.
        obtain ⟨more, hmore⟩ : part <+: lengthOctets next.length ++ next := by
          refine (List.prefix_or_prefix_of_prefix hpart (List.prefix_append _ _)).resolve_right ?_
          exact hwhole
        refine ⟨whole, Cut.exists_of_split hframes hmore.symm ?_⟩
        rintro rfl
        rw [List.append_nil] at hmore
        exact hwhole (hmore ▸ List.prefix_refl part)
  exact hmain frames [] stream rfl h

/-- What a reader answers to a stream that is cut off. -/
theorem Cut.readAll_eq {whole : List (List UInt8)} {stream : List UInt8}
    {failures : List SystemError} (h : Cut frames whole stream failures)
    (hfits : ∀ frame ∈ frames, frame.length ≤ effectiveLimit limit) :
    readAll limit stream =
      whole.map .ok ++ failures.map (fun e => .error (some e)) ++ [.error none] := by
  rw [List.append_assoc]
  cases h with
  | between hframes =>
    have hwhole : ∀ frame ∈ whole, frame.length ≤ effectiveLimit limit :=
      fun frame hframe => hfits frame (by simp [hframes, hframe])
    have hread := readAll_carried hwhole []
    rwa [List.append_nil] at hread
  | @afterLength rest next hframes hne =>
    have hwhole : ∀ frame ∈ whole, frame.length ≤ effectiveLimit limit :=
      fun frame hframe => hfits frame (by simp [hframes, hframe])
    have hnext : next.length ≤ effectiveLimit limit := hfits next (by simp [hframes])
    rw [readAll_carried hwhole, readAll_of_closed (read_lengthOctets hnext hne)]
    rfl
  | @inside rest next part more hframes hsplit hpart hmore hlength =>
    have hwhole : ∀ frame ∈ whole, frame.length ≤ effectiveLimit limit :=
      fun frame hframe => hfits frame (by simp [hframes, hframe])
    have hnext : next.length ≤ effectiveLimit limit := hfits next (by simp [hframes])
    rw [readAll_carried hwhole, readAll_of_failed (read_part hnext hsplit hpart hmore hlength)]
    rfl

/-- What becomes of frames that are written to a new stream and read from it again, with the same
limit on both sides. -/
structure ReadsBack (limit : Nat) (frames : List (List UInt8)) : Prop where
  /-- Each frame is accepted or refused for its own length, whatever becomes of the others. -/
  answers : (writeAll limit [] frames).1 = frames.map (answer limit)
  /-- The stream carries just those that were accepted, in order. -/
  stream : (writeAll limit [] frames).2 = carried (accepted limit frames)
  /-- In front of a frame stand four octets that hold its length, the highest first. -/
  length : ∀ frame ∈ accepted limit frames, ∃ a b c d : UInt8,
    lengthOctets frame.length = [a, b, c, d] ∧
      frame.length = a.toNat * 2 ^ 24 + b.toNat * 2 ^ 16 + c.toNat * 2 ^ 8 + d.toNat
  whole : readAll limit (writeAll limit [] frames).2 =
    (accepted limit frames).map .ok ++ [.error none]
  /-- The stream may be cut off anywhere. -/
  cut : ∀ stream, stream <+: (writeAll limit [] frames).2 →
    ∃ whole failures, Cut (accepted limit frames) whole stream failures
  /-- Then the frames in front of the cut are read unaltered, and after that the stream is closed,
  with a failure in between if the place of the cut says so. -/
  read : ∀ whole stream failures, Cut (accepted limit frames) whole stream failures →
    readAll limit stream =
      whole.map .ok ++ failures.map (fun e => .error (some e)) ++ [.error none]

theorem frames_read_back (limit : Nat) (frames : List (List UInt8)) : ReadsBack limit frames := by
  have hfits : ∀ frame ∈ accepted limit frames, frame.length ≤ effectiveLimit limit := by
    intro frame hframe
    simpa [accepted, effectiveLimit_eq] using (List.mem_filter.1 hframe).2
  have hwritten := writeAll_eq limit [] frames
  rw [List.nil_append] at hwritten
  refine { answers := ?_, stream := ?_, length := ?_, whole := ?_, cut := ?_, read := ?_ }
  · rw [hwritten]
  · rw [hwritten]
  · intro frame hframe
    have hsize := Nat.lt_of_le_of_lt (hfits frame hframe) (effectiveLimit_lt limit)
    have hlength := lengthOf_lengthOctets hsize
    refine ⟨_, _, _, _, rfl, ?_⟩
    rw [lengthOf] at hlength
    omega
  · have hwhole := readAll_carried hfits []
    rw [List.append_nil] at hwhole
    rw [hwritten]
    exact hwhole
  · intro stream hstream
    rw [hwritten] at hstream
    exact Cut.exists_of_isPrefix hstream
  · intro whole stream failures hcut
    exact hcut.readAll_eq hfits

/-- Of three octets at most, the third of four frames is refused. The stream breaks off in the last
one, which is noticed, and behind its length, which is not. -/
theorem frames_read_back_in_part :
    (writeAll 3 [] [[1, 2], [], [3, 4, 5, 6], [7, 8]]).1 =
        [.ok (), .ok (), .error tooLongToWrite, .ok ()] ∧
      readAll 3 [0, 0, 0, 2, 1, 2, 0, 0, 0, 0, 0, 0, 0, 2, 7] =
        [.ok [1, 2], .ok [], .error (some truncated), .error none] ∧
      readAll 3 [0, 0, 0, 2, 1, 2, 0, 0, 0, 0, 0, 0, 0, 2] =
        [.ok [1, 2], .ok [], .error none] := by
  have h := frames_read_back 3 [[1, 2], [], [3, 4, 5, 6], [7, 8]]
  have hlast : accepted 3 [[1, 2], [], [3, 4, 5, 6], [7, 8]] = [[1, 2], []] ++ [7, 8] :: [] := by
    decide
  have hsplit : lengthOctets 2 ++ [7, 8] = [0, 0, 0, 2, 7] ++ [8] := by decide
  have hinside : Cut (accepted 3 [[1, 2], [], [3, 4, 5, 6], [7, 8]]) [[1, 2], []]
      (carried [[1, 2], []] ++ [0, 0, 0, 2, 7]) [truncated] :=
    .inside hlast hsplit (by decide) (by decide) (by decide)
  exact ⟨h.answers, h.read _ _ _ hinside, h.read _ _ _ (.afterLength hlast (by decide))⟩

end Frame

end ControlPlane
