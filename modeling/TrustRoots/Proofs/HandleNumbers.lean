import TrustRoots.Proofs.SessionHistory

/-! Handles are seen by numbers. A number stands for one load throughout a session, and a load
has one number. -/

namespace TrustRoots

namespace Session

def Distinct (handles : List Handle) : Prop :=
  (handles.map Handle.load).Nodup

theorem see_loaded (handles : List Handle) (handle : Handle) :
    ∃ number, (see handles (some (.loaded handle))).1 = .loaded number handle.store ∧
      ((see handles (some (.loaded handle))).2.map Handle.load)[number]? = some handle.load := by
  rw [see]
  cases found : handles.findIdx? (fun known => known.load = handle.load) with
  | some number =>
    obtain ⟨inside, same, _⟩ := List.findIdx?_eq_some_iff_getElem.1 found
    refine ⟨number, rfl, ?_⟩
    rw [List.getElem?_map, List.getElem?_eq_getElem inside, Option.map_some]
    exact congrArg some (of_decide_eq_true same)
  | none =>
    refine ⟨handles.length, rfl, ?_⟩
    rw [List.getElem?_map, List.getElem?_concat_length, Option.map_some]

private theorem see_prefix (handles : List Handle) (outcome : Option Outcome) :
    handles <+: (see handles outcome).2 := by
  cases outcome with
  | none => exact List.prefix_rfl
  | some outcome =>
    cases outcome with
    | failed error => exact List.prefix_rfl
    | loaded handle =>
      rw [see]
      cases handles.findIdx? (fun known => known.load = handle.load) with
      | some number => exact List.prefix_rfl
      | none => exact List.prefix_append handles [handle]

theorem mem_of_mem_see {handles : List Handle} {outcome : Option Outcome} {handle : Handle}
    (member : handle ∈ (see handles outcome).2) : handle ∈ handles ∨ outcome = some (.loaded handle) := by
  cases outcome with
  | none => exact .inl member
  | some outcome =>
    cases outcome with
    | failed error => exact .inl member
    | loaded given =>
      rw [see] at member
      cases found : handles.findIdx? (fun known => known.load = given.load) with
      | some number =>
        rw [found] at member
        exact .inl member
      | none =>
        rw [found] at member
        rcases List.mem_append.1 member with known | new
        · exact .inl known
        · exact .inr (by rw [List.mem_singleton.1 new])

private theorem see_distinct {handles : List Handle} (distinct : Distinct handles) (outcome : Option Outcome) :
    Distinct (see handles outcome).2 := by
  cases outcome with
  | none => exact distinct
  | some outcome =>
    cases outcome with
    | failed error => exact distinct
    | loaded handle =>
      rw [see]
      cases found : handles.findIdx? (fun known => known.load = handle.load) with
      | some number => exact distinct
      | none =>
        have absent := List.findIdx?_eq_none_iff.1 found
        rw [Distinct, List.map_append, List.map_singleton]
        refine List.nodup_append.2 ⟨distinct, List.pairwise_singleton _ _, ?_⟩
        intro load known other new same
        obtain ⟨old, member, rfl⟩ := List.mem_map.1 known
        cases List.mem_singleton.1 new
        exact of_decide_eq_false (absent old member) same

end Session

namespace SoloSession

variable [ResourceSource σ] (solo : SoloSession σ)

/-- The action at this time is a request, and this is seen of what it gives. -/
def Sees (time : Nat) (seen : Seen) : Prop :=
  solo.actions[time]? = some .get ∧ ((solo.session time).act .get).value.1 = .seen seen

/-- The loads whose handles have been seen, in the order of their numbers. -/
def numbered (time : Nat) : List Nat :=
  (solo.session time).handles.map Handle.load

variable {solo}

theorem session_of_get {time : Nat} (acting : solo.actions[time]? = some .get) :
    (solo.session (time + 1)).handles =
      (Session.see (solo.session time).handles (solo.provider time).get.value.1).2 := by
  rw [session_succ, acting]
  rfl

theorem handles_succ (solo : SoloSession σ) (time : Nat) :
    (solo.session (time + 1)).handles = (solo.session time).handles ∨
      ∃ outcome, solo.Gets time outcome ∧
        (solo.session (time + 1)).handles = (Session.see (solo.session time).handles outcome).2 := by
  rw [session_succ]
  cases acting : solo.actions[time]? with
  | none => exact .inl rfl
  | some action =>
    cases action with
    | get => exact .inr ⟨_, ⟨acting, rfl⟩, rfl⟩
    | getTogether callers => exact absurd (List.mem_of_getElem? acting) (solo.alone callers)
    | reset => exact .inl rfl
    | change update => exact .inl rfl

theorem numbered_nodup (solo : SoloSession σ) (time : Nat) : (solo.numbered time).Nodup := by
  induction time with
  | zero => exact List.nodup_nil
  | succ time ih =>
    rcases solo.handles_succ time with same | ⟨outcome, _, seen⟩
    · rw [numbered, same]
      exact ih
    · rw [numbered, seen]
      exact Session.see_distinct ih outcome

theorem handles_prefix (solo : SoloSession σ) {first last : Nat} (later : first ≤ last) :
    (solo.session first).handles <+: (solo.session last).handles := by
  induction later with
  | refl => exact List.prefix_rfl
  | @step last later ih =>
    refine ih.trans ?_
    rcases solo.handles_succ last with same | ⟨outcome, _, seen⟩
    · exact same ▸ List.prefix_rfl
    · exact seen ▸ Session.see_prefix _ outcome

theorem numbered_prefix (solo : SoloSession σ) {first last : Nat} (later : first ≤ last) :
    solo.numbered first <+: solo.numbered last :=
  (solo.handles_prefix later).map _

theorem sees_of_gets {time : Nat} {outcome : Option Outcome} (gets : solo.Gets time outcome) :
    solo.Sees time (Session.see (solo.session time).handles outcome).1 := by
  obtain ⟨acting, given⟩ := gets
  refine ⟨acting, ?_⟩
  rw [← given]
  rfl

theorem gets_of_sees {time number : Nat} {store : TrustStore} (sees : solo.Sees time (.loaded number store)) :
    ∃ handle, solo.Gets time (some (.loaded handle)) ∧ handle.store = store ∧
      (solo.numbered (time + 1))[number]? = some handle.load := by
  obtain ⟨acting, answer⟩ := sees
  have seen : (Session.see (solo.session time).handles (solo.provider time).get.value.1).1 =
      .loaded number store := Answer.seen.inj answer
  rw [numbered, session_of_get acting]
  cases given : (solo.provider time).get.value.1 with
  | none => rw [given] at seen; cases seen
  | some outcome =>
    cases outcome with
    | failed error => rw [given] at seen; cases seen
    | loaded handle =>
      obtain ⟨index, shown, load⟩ := Session.see_loaded (solo.session time).handles handle
      rw [given, shown] at seen
      cases seen
      exact ⟨handle, ⟨acting, given⟩, rfl, load⟩

theorem number_eq_iff {first second one other : Nat} {load reload : Nat} (later : first ≤ second)
    (shown : (solo.numbered (first + 1))[one]? = some load)
    (reshown : (solo.numbered (second + 1))[other]? = some reload) : one = other ↔ load = reload := by
  obtain ⟨inside, same⟩ := List.getElem?_eq_some_iff.1 shown
  have grown := solo.numbered_prefix (Nat.succ_le_succ later)
  have kept : (solo.numbered (second + 1))[one]? = some load :=
    (List.prefix_iff_getElem?.1 grown one inside).trans (congrArg some same)
  refine ⟨?_, ?_⟩
  · rintro rfl
    exact Option.some.inj (kept.symm.trans reshown)
  · rintro rfl
    exact (List.getElem?_inj (Nat.lt_of_lt_of_le inside grown.length_le) (solo.numbered_nodup _)).1 (kept.trans reshown.symm)

end SoloSession

end TrustRoots
