import Fieldwise.Proofs.Template.Replacement
import Fieldwise.Proofs.Text.Offset
import Fieldwise.Template.Loop

/-!
# The loop stays within the value

Whatever finds the matches, as long as they begin no earlier than the search and are parts of the value
between borders of characters (`Loop.Sound`), the loop over the bytes of a value ends, and every slice that
it takes can be taken (`replaceAll_loop_safe`).

The invariant is that both offsets of the loop are those of places in the text, or of the one place
behind its end (`Loop.State.IsAt`). One pass leads from places to places further on (`Loop.pass_of_some`), so
that the number of places that are left bounds the number of passes (`Loop.exists_runs`). With a pattern to
find the matches, the loop over the bytes is `replaceAll` (`Loop.runs_replaceFrom`).
-/

namespace Fieldwise.Template.Loop

open Utf8

/-! ### Runs -/

variable {ε : Type}

/-- A run of the loop from a state on: the matches that it goes to expand, and its result. There is none
if a slice cannot be taken. -/
inductive Runs (find? : Nat → Option (Hit ε)) (value : List UInt8) :
    State → List (Hit ε) → Option (Except ε (List UInt8)) → Prop
  | again {s s' : State} {hit : Hit ε} {hits : List (Hit ε)} {result : Option (Except ε (List UInt8))}
    (h : pass find? value s = .again hit s') (rest : Runs find? value s' hits result) :
    Runs find? value s (hit :: hits) result
  | failed {s : State} {hit : Hit ε} {cause : ε} (h : pass find? value s = .failed hit cause) :
    Runs find? value s [hit] (some (.error cause))
  | finished {s : State} {out : List UInt8} (h : pass find? value s = .finished out) :
    Runs find? value s [] (some (.ok out))
  | outOfBounds {s : State} (h : pass find? value s = .outOfBounds) : Runs find? value s [] none

/-- The states that the loop comes to. -/
inductive Reaches (find? : Nat → Option (Hit ε)) (value : List UInt8) : State → Prop
  | start : Reaches find? value ⟨[], 0, 0⟩
  | again {s s' : State} {hit : Hit ε} (h : Reaches find? value s)
    (hpass : pass find? value s = .again hit s') : Reaches find? value s'

/-- A match is the part of a value between two borders of characters. -/
structure Hit.IsSpan (hit : Hit ε) (value : List UInt8) : Prop where
  start_le_stop : hit.start ≤ hit.stop
  start_boundary : isBoundary value hit.start = true
  stop_boundary : isBoundary value hit.stop = true

/-- From a border of characters, only matches are found that begin there or later, and that are parts of
the value between borders of characters. -/
def Sound (find? : Nat → Option (Hit ε)) (value : List UInt8) : Prop :=
  ∀ searchAt hit, isBoundary value searchAt = true → find? searchAt = some hit →
    searchAt ≤ hit.start ∧ hit.IsSpan value

variable {find? : Nat → Option (Hit ε)} {value : List UInt8} {s s' : State} {hit : Hit ε}

/-- There is one run from a state. -/
theorem Runs.unique {hits hits' : List (Hit ε)} {result result' : Option (Except ε (List UInt8))}
    (h : Runs find? value s hits result) (h' : Runs find? value s hits' result') :
    hits = hits' ∧ result = result' := by
  induction h generalizing hits' with
  | again hpass _ ih => cases h' <;> grind
  | failed hpass => cases h' <;> grind
  | finished hpass => cases h' <;> grind
  | outOfBounds hpass => cases h' <;> grind

/-! ### One pass -/

variable {text : List Char} {i j a b : Nat}

/-- The loop has dealt with the text up to the place `i`, and looks for a match from the place `j` on. This
may lie behind the end of the text. -/
structure State.IsAt (s : State) (text : List Char) (i j : Nat) : Prop where
  lastEnd : s.lastEnd = offset text i
  searchAt : s.searchAt = offset text j
  le : i ≤ j
  le_length : i ≤ text.length
  le_succ : j ≤ text.length + 1

/-- The search goes on at the end of a match, or at the next place if the match is empty. -/
def resumePlace (a b : Nat) : Nat := if a = b then b + 1 else b

/-- The loop looks for a match up to the end of the text. -/
theorem State.IsAt.searchAt_le_iff (h : s.IsAt text i j) :
    s.searchAt ≤ (encode text).length ↔ j ≤ text.length := by
  rw [h.searchAt, ← offset_length, (offset_strictMono text).le_iff_le]

/-- What is left of the text can be written. -/
theorem finish_of_isAt (h : s.IsAt text i j) :
    (finish (encode text) s : Pass ε) = .finished (s.out ++ encode (text.drop i)) := by
  rw [finish, h.lastEnd, ← offset_length, slice?_offset h.le_length (Nat.le_refl _), ← List.length_drop,
    List.take_length]

/-- The loop ends behind the text, and where there is no match. -/
theorem pass_of_none (h : s.IsAt text i j) (hnone : j ≤ text.length → find? s.searchAt = none) :
    pass find? (encode text) s = .finished (s.out ++ encode (text.drop i)) := by
  rw [pass]
  split
  · rename_i hle
    rw [hnone (h.searchAt_le_iff.mp hle)]
    exact finish_of_isAt h
  · exact finish_of_isAt h

/-- After a match between two places the search goes on at a place. -/
theorem resume?_of_places (hb : b ≤ text.length) (hstart : hit.start = offset text a)
    (hstop : hit.stop = offset text b) :
    resume? (encode text) hit = some (offset text (resumePlace a b)) := by
  by_cases heq : a = b
  · subst heq
    rw [resume?, hstart, hstop, if_pos rfl, resumePlace, if_pos rfl, ← offset_length,
      slice?_offset hb (Nat.le_refl _), ← List.length_drop, List.take_length, Option.map_some,
      head?_encode, offset_succ]
    cases (text.drop a).head? <;> rfl
  · have hne : ¬offset text a = offset text b := fun h => heq ((offset_strictMono text).injective h)
    rw [resume?, hstart, hstop, if_neg hne, resumePlace, if_neg heq]

/-- A pass with a match between two places expands it, with the text before it left as it is, and leads
to places behind it. -/
theorem pass_of_some (h : s.IsAt text i j) (hj : j ≤ a) (hab : a ≤ b) (hb : b ≤ text.length)
    (hfind : find? s.searchAt = some hit) (hstart : hit.start = offset text a)
    (hstop : hit.stop = offset text b) :
    pass find? (encode text) s =
      match hit.replacement with
      | .error cause => .failed hit cause
      | .ok replacement => .again hit ⟨s.out ++ encode ((text.drop i).take (a - i)) ++ replacement,
          offset text b, offset text (resumePlace a b)⟩ := by
  have hle : s.searchAt ≤ (encode text).length := h.searchAt_le_iff.mpr (by omega)
  have hbetween : slice? (encode text) s.lastEnd hit.start =
      some (encode ((text.drop i).take (a - i))) := by
    rw [h.lastEnd, hstart, slice?_offset (Nat.le_trans h.le hj) (Nat.le_trans hab hb)]
  rw [pass, if_pos hle, hfind]
  simp only [hbetween, resume?_of_places hb hstart hstop]
  cases hit.replacement with
  | error cause => rfl
  | ok replacement => rw [hstop]

/-- The search goes on behind the start of a match. -/
theorem lt_resumePlace (hab : a ≤ b) : a < resumePlace a b := by
  unfold resumePlace
  split <;> omega

/-- The search never goes back behind the end of a match, and never on behind the next place. -/
theorem resumePlace_bounds (a b : Nat) : b ≤ resumePlace a b ∧ resumePlace a b ≤ b + 1 := by
  unfold resumePlace
  split <;> omega

/-- A match that is found from a place lies between two places. -/
theorem exists_places (hsound : Sound find? (encode text)) (h : s.IsAt text i j) (hj : j ≤ text.length)
    (hfind : find? s.searchAt = some hit) :
    ∃ a b, j ≤ a ∧ a ≤ b ∧ b ≤ text.length ∧ hit.start = offset text a ∧ hit.stop = offset text b := by
  have hmono := offset_strictMono text
  obtain ⟨hle, hspan⟩ := hsound _ _ (h.searchAt ▸ isBoundary_offset hj) hfind
  obtain ⟨a, -, ha⟩ := isBoundary_encode_iff.mp hspan.start_boundary
  obtain ⟨b, hb, hbstop⟩ := isBoundary_encode_iff.mp hspan.stop_boundary
  have hab := hspan.start_le_stop
  rw [h.searchAt, ← ha, hmono.le_iff_le] at hle
  rw [← ha, ← hbstop, hmono.le_iff_le] at hab
  exact ⟨a, b, hle, hab, hb, ha.symm, hbstop.symm⟩

/-! ### The whole run -/

/-- From places, a pass ends the loop, or it goes to expand a match and leads to places further on. -/
theorem pass_cases (hsound : Sound find? (encode text)) (h : s.IsAt text i j) :
    (∃ out, pass find? (encode text) s = .finished out) ∨ j ≤ text.length ∧ ∃ hit,
      (∃ cause, pass find? (encode text) s = .failed hit cause) ∨
      ∃ s' i' j', pass find? (encode text) s = .again hit s' ∧ j < j' ∧ s'.IsAt text i' j' := by
  by_cases hj : j ≤ text.length
  · cases hfind : find? s.searchAt with
    | none => exact .inl ⟨_, pass_of_none h fun _ => hfind⟩
    | some hit =>
      obtain ⟨a, b, hja, hab, hb, hstart, hstop⟩ := exists_places hsound h hj hfind
      have hpass := pass_of_some h hja hab hb hfind hstart hstop
      refine .inr ⟨hj, hit, ?_⟩
      cases hreplacement : hit.replacement with
      | error cause =>
        rw [hreplacement] at hpass
        exact .inl ⟨cause, hpass⟩
      | ok replacement =>
        rw [hreplacement] at hpass
        have hbounds := resumePlace_bounds a b
        exact .inr ⟨_, b, resumePlace a b, hpass, Nat.lt_of_le_of_lt hja (lt_resumePlace hab),
          ⟨rfl, rfl, hbounds.1, hb, by omega⟩⟩
  · exact .inl ⟨_, pass_of_none h fun hle => absurd hle hj⟩

/-- Where the loop goes on it does so at places further on. -/
theorem isAt_of_again (hsound : Sound find? (encode text)) (h : s.IsAt text i j)
    (hpass : pass find? (encode text) s = .again hit s') : ∃ i' j', j < j' ∧ s'.IsAt text i' j' := by
  rcases pass_cases hsound h with ⟨out, hout⟩ | ⟨-, hit, ⟨cause, hcause⟩ | ⟨s'', i', j', hagain, hlt, hat⟩⟩
  · cases hpass.symm.trans hout
  · cases hpass.symm.trans hcause
  · obtain ⟨-, rfl⟩ := Pass.again.inj (hpass.symm.trans hagain)
    exact ⟨i', j', hlt, hat⟩

/-- From places, the loop comes to a result, and it goes to expand no more matches than there are places
left. -/
theorem exists_runs (hsound : Sound find? (encode text)) (h : s.IsAt text i j) :
    ∃ hits result, Runs find? (encode text) s hits (some result) ∧ hits.length + j ≤ text.length + 1 := by
  obtain ⟨left, hleft⟩ := Nat.exists_eq_add_of_le h.le_succ
  -- the search never comes to fewer places, so the number of those left goes down
  induction left using Nat.strongRecOn generalizing s i j with
  | ind left ih =>
    rcases pass_cases hsound h with
      ⟨out, hout⟩ | ⟨hj, hit, ⟨cause, hcause⟩ | ⟨s', i', j', hagain, hlt, hat⟩⟩
    · exact ⟨[], .ok out, .finished hout, by rw [List.length_nil]; omega⟩
    · exact ⟨[hit], .error cause, .failed hcause, by rw [List.length_singleton]; omega⟩
    · have hle := hat.le_succ
      obtain ⟨hits, result, hruns, hlength⟩ :=
        ih (text.length + 1 - j') (by omega) hat (by omega)
      exact ⟨hit :: hits, result, .again hagain hruns, by rw [List.length_cons]; omega⟩

/-- From places, no slice is out of bounds. -/
theorem pass_ne_outOfBounds (hsound : Sound find? (encode text)) (h : s.IsAt text i j) :
    pass find? (encode text) s ≠ .outOfBounds := by
  intro hpass
  rcases pass_cases hsound h with ⟨out, hout⟩ | ⟨-, hit, ⟨cause, hcause⟩ | ⟨s', i', j', hagain, -, -⟩⟩
  · cases hpass.symm.trans hout
  · cases hpass.symm.trans hcause
  · cases hpass.symm.trans hagain

/-- From places, what has been dealt with lies before the match that is found, and this within the value. -/
theorem bounds_of_isAt (hsound : Sound find? (encode text)) (h : s.IsAt text i j)
    (hle : s.searchAt ≤ (encode text).length) (hfind : find? s.searchAt = some hit) :
    s.lastEnd ≤ hit.start ∧ hit.start ≤ hit.stop ∧ hit.stop ≤ (encode text).length ∧
      isBoundary (encode text) hit.start = true ∧ isBoundary (encode text) hit.stop = true := by
  obtain ⟨a, b, hja, hab, hb, hstart, hstop⟩ := exists_places hsound h (h.searchAt_le_iff.mp hle) hfind
  have hmono := (offset_strictMono text).monotone
  rw [h.lastEnd, hstart, hstop, ← offset_length]
  exact ⟨hmono (Nat.le_trans h.le hja), hmono hab, hmono hb, isBoundary_offset (Nat.le_trans hab hb),
    isBoundary_offset hb⟩

/-- All states that the loop comes to are at places. -/
theorem exists_isAt_of_reaches (hsound : Sound find? (encode text))
    (h : Reaches find? (encode text) s) : ∃ i j, s.IsAt text i j := by
  induction h with
  | start => exact ⟨0, 0, (offset_zero text).symm, (offset_zero text).symm, Nat.le_refl 0, Nat.zero_le _,
      Nat.zero_le _⟩
  | again _ hpass ih =>
    obtain ⟨i, j, h⟩ := ih
    obtain ⟨i', j', -, h'⟩ := isAt_of_again hsound h hpass
    exact ⟨i', j', h'⟩

/-! ### The loop with a pattern -/

/-- A match of a pattern as the loop sees it. -/
def findHit (p : Pattern) (template text : List Char) (searchAt : Nat) : Option (Hit Error) :=
  (p.find? text.toArray (place (encode text) searchAt)).map fun m =>
    ⟨offset text m.start, offset text m.stop, (expand p.groups template text.toArray m).map encode⟩

/-- From the offset of a place the loop is given the match that is found from the place. -/
theorem findHit_offset (p : Pattern) (template : List Char) (hj : j ≤ text.length) :
    findHit p template text (offset text j) = (p.find? text.toArray j).map fun m =>
      ⟨offset text m.start, offset text m.stop, (expand p.groups template text.toArray m).map encode⟩ := by
  rw [findHit, place_offset hj]

/-- What is assumed of the engine is true of patterns. -/
theorem sound_findHit (p : Pattern) (template text : List Char) :
    Sound (findHit p template text) (encode text) := by
  intro searchAt hit hboundary hfind
  obtain ⟨k, hk, rfl⟩ := isBoundary_encode_iff.mp hboundary
  rw [findHit_offset p template hk] at hfind
  obtain ⟨m, hm, rfl⟩ := Option.map_eq_some_iff.mp hfind
  obtain ⟨hle, hspan, hstop⟩ := Pattern.find?_bounds hm
  rw [List.size_toArray] at hstop
  have hmono := (offset_strictMono text).monotone
  exact ⟨hmono hle, hmono hspan, isBoundary_offset (Nat.le_trans hspan hstop), isBoundary_offset hstop⟩

/-- Where there is no match any more, both loops write what is left. -/
theorem runs_of_none {done : List Char} (h : State.IsAt ⟨encode done, offset text i, offset text j⟩ text i j)
    (hnone : j ≤ text.length → find? (offset text j) = none) :
    Runs find? (encode text) ⟨encode done, offset text i, offset text j⟩ []
      (some (.ok (encode (done ++ slice text.toArray i text.toArray.size)))) := by
  rw [slice_size, encode_append]
  exact .finished (pass_of_none h hnone)

/-- From places, the loop over the bytes writes the bytes of what the loop over the characters writes. -/
theorem runs_replaceFrom (p : Pattern) (template text done : List Char) (hij : i ≤ j)
    (hi : i ≤ text.length) (hj : j ≤ text.length + 1) :
    ∃ hits, Runs (findHit p template text) (encode text) ⟨encode done, offset text i, offset text j⟩ hits
      (some ((replaceFrom p template text.toArray done i j).map encode)) := by
  fun_induction replaceFrom p template text.toArray done i j with
  | case1 done i j hs hm =>
    refine ⟨[], runs_of_none ⟨rfl, rfl, hij, hi, hj⟩ fun hle => ?_⟩
    rw [findHit_offset p template hle, hm]
    rfl
  | case2 done i j hs m hm ih =>
    rw [List.size_toArray] at hs
    obtain ⟨hle, hspan, hstop⟩ := Pattern.find?_bounds hm
    rw [List.size_toArray] at hstop
    have hat : State.IsAt ⟨encode done, offset text i, offset text j⟩ text i j := ⟨rfl, rfl, hij, hi, hj⟩
    have hfind : findHit p template text (offset text j) = some ⟨offset text m.start, offset text m.stop,
        (expand p.groups template text.toArray m).map encode⟩ := by
      rw [findHit_offset p template hs, hm]
      rfl
    have hpass := pass_of_some hat hle hspan hstop hfind rfl rfl
    cases hexpand : expand p.groups template text.toArray m with
    | error e =>
      rw [hexpand] at hpass
      exact ⟨_, .failed hpass⟩
    | ok replacement =>
      have hresume : resumePlace m.start m.stop = m.resume := rfl
      have hbounds := resumePlace_bounds m.start m.stop
      have hslice : slice text.toArray i m.start = (text.drop i).take (m.start - i) :=
        slice_eq_take text.toArray i m.start
      rw [hexpand, hresume, ← hslice] at hpass
      obtain ⟨hits, hruns⟩ := ih replacement m.stop_le_resume hstop (by omega)
      rw [encode_append, encode_append] at hruns
      exact ⟨_, .again hpass hruns⟩
  | case3 done i j hs =>
    exact ⟨[], runs_of_none ⟨rfl, rfl, hij, hi, hj⟩ fun hle => absurd hle hs⟩

end Fieldwise.Template.Loop

namespace Fieldwise

open Template

/-- **The loop stays within the value.** Let matches begin no earlier than the search for them, and be parts
of the value between borders of characters. Then the loop has one run; it comes to a result, and goes to
expand at most one match for each character and one more. Wherever it comes, its slices can be taken: it has
not dealt with more than what lies before the next match, the match lies within the value, and all of these
offsets are borders of characters, as that of the next search is unless it lies behind the end. From one
search to the next the offset grows. All of this is so of patterns, for which the result of the loop is that
of `replaceAll`. -/
theorem replaceAll_loop_safe (value : String) :
    let bytes := Utf8.encodeString value
    (∀ (ε : Type) (find? : Nat → Option (Loop.Hit ε)), Loop.Sound find? bytes →
      (∃ hits result, Loop.Runs find? bytes ⟨[], 0, 0⟩ hits (some result) ∧
        hits.length ≤ value.length + 1 ∧
        ∀ hits' result', Loop.Runs find? bytes ⟨[], 0, 0⟩ hits' result' →
          hits' = hits ∧ result' = some result) ∧
      ∀ s, Loop.Reaches find? bytes s →
        Loop.pass find? bytes s ≠ .outOfBounds ∧
        Utf8.isBoundary bytes s.lastEnd = true ∧ s.lastEnd ≤ s.searchAt ∧
        (s.searchAt ≤ bytes.length → Utf8.isBoundary bytes s.searchAt = true) ∧
        (∀ hit, s.searchAt ≤ bytes.length → find? s.searchAt = some hit →
          s.lastEnd ≤ hit.start ∧ hit.start ≤ hit.stop ∧ hit.stop ≤ bytes.length ∧
          Utf8.isBoundary bytes hit.start = true ∧ Utf8.isBoundary bytes hit.stop = true) ∧
        ∀ hit s', Loop.pass find? bytes s = .again hit s' → s.searchAt < s'.searchAt) ∧
    ∀ p template, Loop.Sound (Loop.findHit p template.toList value.toList) bytes ∧
      ∃ hits, Loop.Runs (Loop.findHit p template.toList value.toList) bytes ⟨[], 0, 0⟩ hits
        (some ((replaceAll p template value).map Utf8.encodeString)) := by
  intro bytes
  have hstart : Loop.State.IsAt ⟨[], 0, 0⟩ value.toList 0 0 :=
    ⟨(Utf8.offset_zero _).symm, (Utf8.offset_zero _).symm, Nat.le_refl 0, Nat.zero_le _, Nat.zero_le _⟩
  refine ⟨fun ε find? hsound => ⟨?_, fun s hreaches => ?_⟩, fun p template => ?_⟩
  · obtain ⟨hits, result, hruns, hlength⟩ := Loop.exists_runs hsound hstart
    rw [String.length_toList] at hlength
    exact ⟨hits, result, hruns, hlength, fun _ _ hruns' => hruns'.unique hruns⟩
  · obtain ⟨i, j, hat⟩ := Loop.exists_isAt_of_reaches hsound hreaches
    have hmono := Utf8.offset_strictMono value.toList
    refine ⟨Loop.pass_ne_outOfBounds hsound hat, ?_, ?_, fun hle => ?_,
      fun hit => Loop.bounds_of_isAt hsound hat, fun hit s' hpass => ?_⟩
    · rw [hat.lastEnd]
      exact Utf8.isBoundary_offset hat.le_length
    · rw [hat.lastEnd, hat.searchAt]
      exact hmono.monotone hat.le
    · rw [hat.searchAt]
      exact Utf8.isBoundary_offset (hat.searchAt_le_iff.mp hle)
    · obtain ⟨i', j', hlt, hat'⟩ := Loop.isAt_of_again hsound hat hpass
      rw [hat.searchAt, hat'.searchAt]
      exact hmono hlt
  · obtain ⟨hits, hruns⟩ := Loop.runs_replaceFrom p template.toList value.toList []
      (Nat.le_refl 0) (Nat.zero_le _) (Nat.zero_le _)
    have hresult : (replaceAll p template value).map Utf8.encodeString =
        (replaceFrom p template.toList value.toList.toArray [] 0 0).map Utf8.encode := by
      rw [replaceAll]
      cases replaceFrom p template.toList value.toList.toArray [] 0 0 with
      | error e => rfl
      | ok out => exact congrArg Except.ok (congrArg Utf8.encode String.toList_ofList)
    rw [Utf8.offset_zero, ← hresult] at hruns
    exact ⟨Loop.sound_findHit p template.toList value.toList, hits, hruns⟩

/-- Empty matches before and behind a character of two bytes: there are as many as there can be. -/
theorem replaceAll_loop_safe_empty_matches :
    ∃ find? : Nat → Option (Loop.Hit Template.Error), Loop.Sound find? (Utf8.encodeString "é") ∧
      ∃ hits, Loop.Runs find? (Utf8.encodeString "é") ⟨[], 0, 0⟩ hits
        (some (.ok (Utf8.encodeString "-é-"))) ∧ hits.length = 2 ∧ hits.length ≤ "é".length + 1 := by
  let find? : Nat → Option (Loop.Hit Template.Error) := fun searchAt =>
    if searchAt = 0 ∨ searchAt = 2 then some ⟨searchAt, searchAt, .ok (Utf8.encodeString "-")⟩ else none
  have hsound : Loop.Sound find? (Utf8.encodeString "é") := by
    intro searchAt hit hboundary hfind
    simp only [find?] at hfind
    split at hfind
    · obtain rfl := Option.some.inj hfind
      exact ⟨Nat.le_refl _, Nat.le_refl _, hboundary, hboundary⟩
    · cases hfind
  have hruns : Loop.Runs find? (Utf8.encodeString "é") ⟨[], 0, 0⟩ _
      (some (.ok (Utf8.encodeString "-é-"))) := .again rfl (.again rfl (.finished rfl))
  obtain ⟨⟨hits, result, -, hlength, hunique⟩, -⟩ := (replaceAll_loop_safe "é").1 _ find? hsound
  obtain ⟨rfl, -⟩ := hunique _ _ hruns
  exact ⟨find?, hsound, _, hruns, rfl, hlength⟩

end Fieldwise
