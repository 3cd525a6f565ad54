import LiteralPack.Proofs.Accounting

/-!
The first entry to claim a type name keeps it. Whether an entry is accepted depends on the entries
before it through the type names they declare, however these entries fared themselves, so an entry
that was rejected can be left out without a change for any other.
-/

namespace LiteralPack

namespace Declaration

variable {container name : String} {taken : List String} {e : Entry} {entries : List Entry}
  {d : Declaration}

/-! ### Names claimed and names declared -/

/-- The type names of all entries that declare one, accepted or not. -/
def declared (entries : List Entry) : List String :=
  entries.filterMap fun e => e.declaration.toOption.map typeName

theorem mem_declared_iff :
    name ∈ declared entries ↔ ∃ e ∈ entries, ∃ d, e.declaration = .ok d ∧ d.typeName = name := by
  simp only [declared, List.mem_filterMap, Option.map_eq_some_iff]
  refine exists_congr fun e => and_congr_right fun _ => exists_congr fun d => ?_
  cases e.declaration <;> simp [Except.toOption]

theorem declared_cons_of_error {cause : ShapeError} (h : e.declaration = .error cause) :
    declared (e :: entries) = declared entries := by
  rw [declared, List.filterMap_cons, h]
  rfl

theorem declared_cons_of_ok (h : e.declaration = .ok d) :
    declared (e :: entries) = d.typeName :: declared entries := by
  rw [declared, List.filterMap_cons, h]
  rfl

/-- An entry that is rejected has a name that is taken already, if it has one at all besides the
container's. So the names taken are those that were declared. -/
theorem mem_taken_iff (hname : name ≠ container) (taken : List String) (entries : List Entry) :
    name ∈ (accepted (claimAll container taken entries)).map typeName ∨ name ∈ taken ↔
      name ∈ declared entries ∨ name ∈ taken := by
  induction entries generalizing taken with
  | nil => rfl
  | cons e entries ih =>
      cases hclaim : e.claim container taken with
      | ok d =>
          rw [claimAll_cons_ok hclaim, accepted_cons_ok,
            declared_cons_of_ok (Entry.declaration_of_claim hclaim)]
          have hrest := ih (d.typeName :: taken)
          rw [List.mem_cons, or_left_comm, or_left_comm (b := name = d.typeName)] at hrest
          rw [List.map_cons, List.mem_cons, List.mem_cons, or_assoc, or_assoc]
          exact hrest
      | error cause =>
          rw [claimAll_cons_error hclaim, accepted_cons_error, ih]
          cases hdeclaration : e.declaration with
          | error cause' => rw [declared_cons_of_error hdeclaration]
          | ok d =>
              have htaken : d.typeName = name → name ∈ taken := by
                rintro rfl
                by_contra hfree
                rw [Entry.claim_eq_ok_iff.2 ⟨hdeclaration, hname, hfree⟩] at hclaim
                cases hclaim
              rw [declared_cons_of_ok hdeclaration, List.mem_cons]
              constructor
              · rintro (hlater | htaken)
                · exact .inl (.inr hlater)
                · exact .inr htaken
              · rintro ((rfl | hlater) | htaken)
                · exact .inr (htaken rfl)
                · exact .inl hlater
                · exact .inr htaken

theorem mem_claimed_iff (hname : name ≠ container) :
    name ∈ claimed container entries ↔ name ∈ declared entries := by
  have htaken := mem_taken_iff hname [] entries
  simpa [claimed, check] using htaken

end Declaration

/-- Of the names taken, the container's own does not matter. -/
theorem Entry.claim_congr {container : String} {taken taken' : List String}
    (h : ∀ name, name ≠ container → (name ∈ taken ↔ name ∈ taken')) (e : Entry) :
    e.claim container taken = e.claim container taken' := by
  unfold claim
  cases e.declaration with
  | error cause => rfl
  | ok d =>
      rw [ok_bind, ok_bind]
      by_cases hname : d.typeName = container
      · rw [if_pos hname, if_pos hname]
        rfl
      · have hcontains : taken.contains d.typeName = taken'.contains d.typeName := by
          rw [Bool.eq_iff_iff, List.contains_iff_mem, List.contains_iff_mem]
          exact h _ hname
        rw [hcontains]

/-- Why an entry is rejected that comes behind the entries `earlier`. -/
inductive Entry.Refused (container : String) (earlier : List Entry) (e : Entry) :
    ShapeError → Prop
  | shape {cause : ShapeError} (h : e.declaration = .error cause) :
      Refused container earlier e cause
  | shadowing {d : Declaration} (h : e.declaration = .ok d) (hname : d.typeName = container) :
      Refused container earlier e (.shadowsContainer d.typeName)
  | repeated {d d' : Declaration} {e' : Entry} (h : e.declaration = .ok d)
      (hname : d.typeName ≠ container) (hmem : e' ∈ earlier) (h' : e'.declaration = .ok d')
      (heq : d'.typeName = d.typeName) :
      Refused container earlier e (.duplicateType d.typeName)

theorem Entry.claim_eq_error_iff {container : String} {earlier : List Entry} {e : Entry}
    {cause : ShapeError} :
    e.claim container (Declaration.declared earlier) = .error cause ↔
      e.Refused container earlier cause := by
  rw [claim, bind_eq_error_iff]
  simp only [throw_or_eq_error_iff, List.contains_iff_mem, Declaration.mem_declared_iff]
  constructor
  · rintro (h | ⟨d, h, ⟨hname, rfl⟩ | ⟨hname, ⟨⟨e', hmem, d', h', heq⟩, rfl⟩ | ⟨-, hreturn⟩⟩⟩)
    · exact .shape h
    · exact .shadowing h hname
    · exact .repeated h hname hmem h' heq
    · cases hreturn
  · intro h
    cases h with
    | shape h => exact .inl h
    | shadowing h hname => exact .inr ⟨_, h, .inl ⟨hname, rfl⟩⟩
    | repeated h hname hmem h' heq =>
        exact .inr ⟨_, h, .inr ⟨hname, .inl ⟨⟨_, hmem, _, h', heq⟩, rfl⟩⟩⟩

/-- Entries shared out in order, each of them to one of two lists. -/
inductive SharedOut : List Entry → List Declaration → List Rejection → Prop
  | nil : SharedOut [] [] []
  | accept {e : Entry} {d : Declaration} {rest : List Entry} {ds : List Declaration}
      {rs : List Rejection} (h : e.declaration = .ok d) (tail : SharedOut rest ds rs) :
      SharedOut (e :: rest) (d :: ds) rs
  | reject {e : Entry} {r : Rejection} {rest : List Entry} {ds : List Declaration}
      {rs : List Rejection} (h : r.interface = e.interface) (tail : SharedOut rest ds rs) :
      SharedOut (e :: rest) ds (r :: rs)

namespace Declaration

variable {container : String} {taken : List String} {e : Entry} {entries : List Entry}
  {d : Declaration} {r : Rejection} {i : Nat}

/-- Each result depends on the entry in its place and on what those before it declare. -/
theorem check_getElem?_declared (container : String) (entries : List Entry) (i : Nat) :
    (check container entries)[i]? = entries[i]?.map fun e =>
      (e.claim container (declared (entries.take i))).mapError
        fun cause => ⟨e.interface, cause⟩ := by
  have hclaim (e : Entry) : e.claim container (claimed container (entries.take i)) =
      e.claim container (declared (entries.take i)) :=
    e.claim_congr fun _ hname => mem_claimed_iff hname
  simp only [check_getElem?, hclaim]

theorem check_getElem?_eq_ok_iff (he : entries[i]? = some e) :
    (check container entries)[i]? = some (.ok d) ↔ e.declaration = .ok d ∧
      d.typeName ≠ container ∧ ∀ (j : Nat) (e' : Entry) (d' : Declaration), j < i →
        entries[j]? = some e' → e'.declaration = .ok d' → d'.typeName ≠ d.typeName := by
  rw [check_getElem?_declared, he, Option.map_some, Option.some_inj, mapError_eq_ok_iff,
    Entry.claim_eq_ok_iff, mem_declared_iff]
  refine and_congr_right fun _ => and_congr_right fun _ => ?_
  constructor
  · intro hfree j e' d' hj he' hd' hname
    have hmem : e' ∈ entries.take i := by
      apply List.mem_of_getElem? (i := j)
      rwa [List.getElem?_take_of_lt hj]
    exact hfree ⟨e', hmem, d', hd', hname⟩
  · rintro hfree ⟨e', hmem, d', hd', hname⟩
    obtain ⟨j, hj⟩ := List.mem_iff_getElem?.1 hmem
    rw [List.getElem?_take] at hj
    split at hj
    next hlt => exact hfree j e' d' hlt hj hd' hname
    next => cases hj

theorem check_getElem?_eq_error_iff (he : entries[i]? = some e) :
    (check container entries)[i]? = some (.error r) ↔
      r.interface = e.interface ∧ e.Refused container (entries.take i) r.cause := by
  rw [check_getElem?_declared, he, Option.map_some, Option.some_inj, ← Entry.claim_eq_error_iff]
  cases e.claim container (declared (entries.take i)) with
  | ok d => simp
  | error cause =>
      obtain ⟨interface, cause'⟩ := r
      simp [eq_comm]

/-! ### Entries left out -/

/-- An entry that is rejected takes no name. -/
theorem claimAll_eraseIdx (h : (claimAll container taken entries)[i]? = some (.error r)) :
    claimAll container taken (entries.eraseIdx i) =
      (claimAll container taken entries).eraseIdx i := by
  induction entries generalizing taken i with
  | nil => rfl
  | cons e entries ih =>
      cases hclaim : e.claim container taken with
      | ok d =>
          rw [claimAll_cons_ok hclaim] at h ⊢
          cases i with
          | zero => cases h
          | succ i =>
              rw [List.getElem?_cons_succ] at h
              rw [List.eraseIdx_cons_succ, List.eraseIdx_cons_succ, claimAll_cons_ok hclaim, ih h]
      | error cause =>
          rw [claimAll_cons_error hclaim] at h ⊢
          cases i with
          | zero => rfl
          | succ i =>
              rw [List.getElem?_cons_succ] at h
              rw [List.eraseIdx_cons_succ, List.eraseIdx_cons_succ, claimAll_cons_error hclaim,
                ih h]

/-! ### Accepted and rejected -/

theorem map_ok_accepted (results : List (Except Rejection Declaration)) :
    (accepted results).map .ok = results.filter (·.isOk) := by
  induction results with
  | nil => rfl
  | cons result results ih =>
      cases result with
      | ok d => exact congrArg (.ok d :: ·) ih
      | error r => exact ih

theorem map_error_rejected (results : List (Except Rejection Declaration)) :
    (rejected results).map .error = results.filter (!·.isOk) := by
  induction results with
  | nil => rfl
  | cons result results ih =>
      cases result with
      | ok d => exact ih
      | error r => exact congrArg (.error r :: ·) ih

theorem sharedOut_claimAll (container : String) (taken : List String) (entries : List Entry) :
    SharedOut entries (accepted (claimAll container taken entries))
      (rejected (claimAll container taken entries)) := by
  induction entries generalizing taken with
  | nil => exact .nil
  | cons e entries ih =>
      cases hclaim : e.claim container taken with
      | ok d =>
          rw [claimAll_cons_ok hclaim]
          exact .accept (Entry.declaration_of_claim hclaim) (ih _)
      | error cause =>
          rw [claimAll_cons_error hclaim]
          exact .reject rfl (ih _)

/-- The first entry to claim a type name keeps it, unless it is the container's. What was rejected
has no part in what becomes of the others, and accepted and rejected entries together are all
entries, each of them once and in order. -/
theorem check_first_come (container : String) (entries : List Entry) :
    let results := check container entries
    results.length = entries.length ∧
    (∀ (i : Nat) (e : Entry), entries[i]? = some e →
      (∀ d, results[i]? = some (.ok d) ↔ e.declaration = .ok d ∧ d.typeName ≠ container ∧
        ∀ (j : Nat) (e' : Entry) (d' : Declaration), j < i → entries[j]? = some e' →
          e'.declaration = .ok d' → d'.typeName ≠ d.typeName) ∧
      ∀ r, results[i]? = some (.error r) ↔
        r.interface = e.interface ∧ e.Refused container (entries.take i) r.cause) ∧
    ((accepted results).map typeName).Nodup ∧
    (∀ d ∈ accepted results, d.typeName ≠ container) ∧
    (∀ (i : Nat) (r : Rejection), results[i]? = some (.error r) →
      check container (entries.eraseIdx i) = results.eraseIdx i) ∧
    (accepted results).map .ok = results.filter (·.isOk) ∧
    (rejected results).map .error = results.filter (!·.isOk) ∧
    SharedOut entries (accepted results) (rejected results) := by
  obtain ⟨hnodup, hfree⟩ := nodup_accepted container [] entries
  exact ⟨length_claimAll container [] entries,
    fun i e he => ⟨fun d => check_getElem?_eq_ok_iff he, fun r => check_getElem?_eq_error_iff he⟩,
    hnodup, fun d hd => (hfree d hd).1, fun i r => claimAll_eraseIdx, map_ok_accepted _,
    map_error_rejected _, sharedOut_claimAll container [] entries⟩

/-- A member of the wrong shape, a name declared twice and the container's name. -/
def bulletin : List Entry :=
  [⟨"a.License", "String text()", ⟨"LICENSE"⟩⟩, ⟨"a.Readme", "int size()", ⟨"README"⟩⟩,
    ⟨"b.License", "String text()", ⟨"OTHER"⟩⟩, ⟨"a.Notice", "fun text(): String", ⟨"NOTICE"⟩⟩,
    ⟨"a.Board", "String text()", ⟨"X"⟩⟩]

def bulletinResults : List (Except Rejection Declaration) :=
  [.ok ⟨"License", "a.License", "text", ⟨"LICENSE"⟩⟩,
    .error ⟨"a.Readme", .nonTextReturn "size" "int"⟩,
    .error ⟨"b.License", .duplicateType "License"⟩,
    .ok ⟨"Notice", "a.Notice", "text", ⟨"NOTICE"⟩⟩,
    .error ⟨"a.Board", .shadowsContainer "Board"⟩]

theorem check_first_come_bulletin :
    check "Board" bulletin = bulletinResults ∧
      bulletin[3]? = some ⟨"a.Notice", "fun text(): String", ⟨"NOTICE"⟩⟩ ∧
      (∀ (j : Nat) (e' : Entry) (d' : Declaration), j < 3 → bulletin[j]? = some e' →
        e'.declaration = .ok d' → d'.typeName ≠ "Notice") ∧
      bulletinResults[2]? = some (.error ⟨"b.License", .duplicateType "License"⟩) ∧
      Entry.Refused "Board" (bulletin.take 2) ⟨"b.License", "String text()", ⟨"OTHER"⟩⟩
        (.duplicateType "License") ∧
      check "Board" (bulletin.eraseIdx 2) = bulletinResults.eraseIdx 2 := by
  have hresults : check "Board" bulletin = bulletinResults := by decide +kernel
  obtain ⟨-, hverdict, -, -, herased, -⟩ := check_first_come "Board" bulletin
  rw [hresults] at hverdict herased
  obtain ⟨haccepted, -⟩ := hverdict 3 _ rfl
  obtain ⟨-, -, hfirst⟩ := (haccepted ⟨"Notice", "a.Notice", "text", ⟨"NOTICE"⟩⟩).1 rfl
  obtain ⟨-, hrejected⟩ := hverdict 2 _ rfl
  obtain ⟨-, hrefused⟩ := (hrejected ⟨"b.License", .duplicateType "License"⟩).1 rfl
  exact ⟨hresults, rfl, hfirst, rfl, hrefused, herased 2 _ rfl⟩

end Declaration

end LiteralPack
