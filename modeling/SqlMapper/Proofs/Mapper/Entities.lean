import SqlMapper.Proofs.Mapper.Write
import SqlMapper.Proofs.Record.Filling

/-! What a call leaves of the entities that it was given. They are filled before their statement
is made, and nothing that is written into them is taken back, so that a rejected call leaves
them with what was made for their empty columns. -/

namespace SqlMapper

namespace Criteria

/-- Entities before and after they are filled in turn, as far as what is made for them
converts. -/
inductive Refilled (c : Criteria α) (fills : FillRegistry σ) (mode : Mode) :
    List α → σ → List α → Option DataError → Prop
  | nil (state : σ) : c.Refilled fills mode [] state [] none
  | filled {before after : α} {state : σ} {rest rest' : List α} {stop : Option DataError}
      (written : c.writeBack (fills.made mode (c.cells before) state).1 before = .ok after)
      (later : c.Refilled fills mode rest (fills.made mode (c.cells before) state).2 rest' stop) :
      c.Refilled fills mode (before :: rest) state (after :: rest') stop
  | stopped {before after : α} {state : σ} {rest : List α} {writes more : List (String × SqlValue)}
      {x : String × SqlValue} {cause : DataError}
      (made : (fills.made mode (c.cells before) state).1 = writes ++ x :: more)
      (written : c.writeBack writes before = .ok after)
      (failed : c.fill x.1 x.2 after = .error cause) :
      c.Refilled fills mode (before :: rest) state (after :: rest) (some cause)

variable {c : Criteria α} {fills : FillRegistry σ} {mode : Mode}

theorem Refilled.of_describe_ok {object : α} {state : σ} {t : TableDescriptor}
    (h : c.describe (c.fillObject fills mode object state) = .ok t) {rest rest' : List α}
    {stop : Option DataError}
    (later : c.Refilled fills mode rest (c.fillObject fills mode object state).state rest' stop) :
    c.Refilled fills mode (object :: rest) state
      ((c.fillObject fills mode object state).object :: rest') stop := by
  rw [(describe_fillObject_eq_ok h).2, FillRegistry.state_filled] at later
  exact .filled (writeBack_of_describe_eq_ok h) later

theorem Refilled.of_describe_error {object : α} {state : σ} {cause : DataError}
    (h : c.describe (c.fillObject fills mode object state) = .error cause) (rest : List α) :
    c.Refilled fills mode (object :: rest) state
      ((c.fillObject fills mode object state).object :: rest) (some cause) := by
  obtain ⟨writes, x, more, hmade, hwrite, hx⟩ := exists_of_describe_eq_error h
  exact .stopped hmade hwrite hx

/-- Where nothing is made for an empty column, nothing changes. -/
theorem Refilled.eq {before after : List α} {state : σ} {stop : Option DataError}
    (h : c.Refilled fills mode before state after stop)
    (hnone : ∀ object ∈ before, ∀ column state, (column, none) ∈ c.cells object →
      (fills.fill mode column.column state).1 = none) : after = before := by
  have hmade : ∀ object state, (∀ column state, (column, none) ∈ c.cells object →
      (fills.fill mode column.column state).1 = none) →
      (fills.made mode (c.cells object) state).1 = [] := by
    intro object state hnone
    refine List.eq_nil_iff_forall_not_mem.mpr fun x hx => ?_
    obtain ⟨⟨column, hc, hempty⟩, f, state', hf, hv, hn⟩ := FillRegistry.exists_of_mem_made hx
    have hx' := hnone column state' hempty
    simp [FillRegistry.fill, hc, hf, hv, hn] at hx'
  induction h with
  | nil => rfl
  | filled written later ih =>
    rw [hmade _ _ (hnone _ List.mem_cons_self)] at written
    rw [Except.ok.inj written, ih fun object ho => hnone object (List.mem_cons_of_mem _ ho)]
  | stopped made written failed =>
    rw [hmade _ _ (hnone _ List.mem_cons_self)] at made
    simp at made

theorem Refilled.kept {r : Record} (hr : r.fields.columnNames.Nodup) {before after : List r.Object}
    {state : σ} {stop : Option DataError}
    (h : r.criteria.Refilled fills mode before state after stop) :
    List.Forall₂ (r.fields.Fieldwise (Record.Kept fills mode)) before after := by
  induction h with
  | nil => exact .nil
  | filled written later ih => exact .cons (Record.fieldwise_kept hr List.prefix_rfl written) ih
  | stopped made written failed =>
    refine .cons (Record.fieldwise_kept hr ⟨_, made.symm⟩ written) ?_
    exact List.forall₂_same.mpr fun object _ =>
      Fields.Fieldwise.refl (fun _ _ _ _ => .inl rfl) object

end Criteria

namespace Mapper

theorem refilled_fillAll (m : Mapper τ σ) (c : Criteria α) (mode : Mode) (entities : List α)
    (s : Session τ σ) :
    ∃ stop, c.Refilled m.fills mode entities s.fillState (m.fillAll c mode entities s).2.1 stop ∧
      ∀ cause, stop = some cause → (m.fillAll c mode entities s).1 = .error (.data cause) := by
  induction entities generalizing s with
  | nil => exact ⟨none, .nil _, by simp⟩
  | cons entity rest ih =>
    cases hd : c.describe (c.fillObject m.fills mode entity s.fillState) with
    | error cause =>
      refine ⟨some cause, ?_, ?_⟩
      · simpa [fillAll, hd] using Criteria.Refilled.of_describe_error hd rest
      · rintro _ ⟨⟩
        simp [fillAll, hd]
    | ok t =>
      obtain ⟨stop, hrest, hstop⟩ :=
        ih (afterFilling s (c.fillObject m.fills mode entity s.fillState))
      refine ⟨stop, ?_, ?_⟩
      · simpa [fillAll, hd] using Criteria.Refilled.of_describe_ok hd hrest
      · intro cause hcause
        simp [fillAll, hd, hstop cause hcause, Except.map]

end Mapper

namespace Write

def entities : Write α → List α
  | .insert entity => [entity]
  | .insertBatch entities => entities
  | .update _ entity => [entity]
  | .updateById entity => [entity]
  | .delete _ => []
  | .deleteByIds _ => []

/-- The entities as the call leaves them. -/
def entitiesAfter (m : Mapper τ σ) (c : Criteria α) (s : Session τ σ) : Write α → List α
  | .insert entity => [(m.insert c entity s).1.2]
  | .insertBatch entities => (m.insertBatch c entities s).1.2
  | .update conditions entity => [(m.update c conditions entity s).1.2]
  | .updateById entity => [(m.updateById c entity s).1.2]
  | .delete _ => []
  | .deleteByIds _ => []

/-- The mode in which a call fills its entities, if it gets as far. -/
def fillMode? : Write α → Option Mode
  | .insert _ => some .insert
  | .insertBatch entities => if entities.isEmpty then none else some .insert
  | .update conditions _ => if conditions.isEmpty then none else some .update
  | .updateById _ => some .update
  | .delete _ => none
  | .deleteByIds _ => none

theorem refilled_writeEntity (m : Mapper τ σ) (c : Criteria α) (mode : Mode)
    (assemble : TableDescriptor → Except MapperError Statement) (entity : α) (s : Session τ σ) :
    ∃ stop, c.Refilled m.fills mode [entity] s.fillState
        [(m.writeEntity c mode assemble entity s).1.2] stop ∧
      ∀ cause, stop = some cause →
        (m.writeEntity c mode assemble entity s).1.1 = .error (.data cause) := by
  cases hd : c.describe (c.fillObject m.fills mode entity s.fillState) with
  | error cause =>
    refine ⟨some cause, .of_describe_error hd [], ?_⟩
    rintro _ ⟨⟩
    rw [Mapper.writeEntity, hd]
    rfl
  | ok t => exact ⟨none, .of_describe_ok hd (.nil _), by simp⟩

/-- A call leaves its entities filled, as far as that goes, whether it is rejected or not. Without
a filling they are as they were. -/
theorem entitiesAfter_refilled (m : Mapper τ σ) (c : Criteria α) (w : Write α) (s : Session τ σ) :
    match w.fillMode? with
    | none => w.entitiesAfter m c s = w.entities
    | some mode => ∃ stop,
        c.Refilled m.fills mode w.entities s.fillState (w.entitiesAfter m c s) stop ∧
        ∀ cause, stop = some cause → (w.perform m c s).1 = .error (.data cause) := by
  cases w with
  | insert entity => exact refilled_writeEntity m c .insert Dialect.mysql.insert entity s
  | insertBatch entities =>
    cases entities with
    | nil => rfl
    | cons entity rest =>
      obtain ⟨stop, hfill, hstop⟩ := m.refilled_fillAll c .insert (entity :: rest) s
      refine ⟨stop, hfill, fun cause hcause => ?_⟩
      have hprepare : ((Write.insertBatch (entity :: rest)).prepare m c s).1 =
          .error (.data cause) := by
        simp only [prepare, hstop cause hcause]
        rfl
      rw [perform_eq, hprepare, Mapper.run_handOver_error]
  | update conditions entity =>
    cases conditions with
    | nil => rfl
    | cons condition rest =>
      exact refilled_writeEntity m c .update
        (fun t => Dialect.mysql.update t (condition :: rest)) entity s
  | updateById entity => exact refilled_writeEntity m c .update Mapper.updateByKey entity s
  | delete object => rfl
  | deleteByIds ids => rfl

/-- Whether a call is rejected or not, nothing but its filling changes its entities, and a filling
changes no field that had a value. -/
theorem entitiesAfter_only_filled (m : Mapper τ σ) (s : Session τ σ) :
    (∀ (c : Criteria α) (w : Write α),
      (match w.fillMode? with
        | none => w.entitiesAfter m c s = w.entities
        | some mode => ∃ stop,
            c.Refilled m.fills mode w.entities s.fillState (w.entitiesAfter m c s) stop ∧
            ∀ cause, stop = some cause → (w.perform m c s).1 = .error (.data cause)) ∧
      ((∀ mode, w.fillMode? = some mode → ∀ object ∈ w.entities, ∀ column state,
          (column, none) ∈ c.cells object → (m.fills.fill mode column.column state).1 = none) →
        w.entitiesAfter m c s = w.entities)) ∧
    ∀ (r : Record) (w : Write r.Object) (mode : Mode), r.fields.columnNames.Nodup →
      w.fillMode? = some mode →
      List.Forall₂ (r.fields.Fieldwise (Record.Kept m.fills mode)) w.entities
        (w.entitiesAfter m r.criteria s) := by
  refine ⟨fun c w => ⟨entitiesAfter_refilled m c w s, fun hnone => ?_⟩, fun r w mode hr hmode => ?_⟩
  · have hafter := entitiesAfter_refilled m c w s
    cases hmode : w.fillMode? with
    | none =>
      rw [hmode] at hafter
      exact hafter
    | some mode =>
      rw [hmode] at hafter
      obtain ⟨stop, hfill, -⟩ := hafter
      exact hfill.eq (hnone mode hmode)
  · have hafter := entitiesAfter_refilled m r.criteria w s
    rw [hmode] at hafter
    obtain ⟨stop, hfill, -⟩ := hafter
    exact hfill.kept hr

/-- A mapper that numbers whatever is written, on a database that answers everything. -/
def memberMapper : Mapper Script Nat :=
  ⟨Script.executor, .ofRegistrations [⟨.write, "revision", Record.numbering⟩,
    ⟨.insert, "nick", fun n => (if n < 3 then some (.text "new") else some (.list []), n)⟩],
    .default⟩

def memberSession : Session Script Nat :=
  ⟨⟨[], [], [], 0⟩, 1, [], []⟩

open Record (members)

/-- A condition without a value is found after the filling, which stays. -/
theorem entitiesAfter_update_rejected :
    let w : Write members.Object := .update ["nick"] (7, "kept", ("ann", 0, ()), none, ())
    let result := w.perform memberMapper members.criteria memberSession
    result.1 = .error (.missingCondition (.column "nick")) ∧ result.2.sent = memberSession.sent ∧
      w.entitiesAfter memberMapper members.criteria memberSession ≠ w.entities := by
  intro w result
  refine ⟨rfl, rfl, fun h => ?_⟩
  have hrevision := congrArg (List.map fun object : members.Object => object.2.2.1.2.1) h
  exact absurd hrevision (by decide)

/-- A batch that stops at its second row leaves the third as it was. -/
theorem entitiesAfter_insertBatch_stopped :
    let row : members.Object := (7, "kept", ("ann", 0, ()), none, ())
    let w : Write members.Object := .insertBatch [row, row, row]
    (∃ cause, (w.perform memberMapper members.criteria memberSession).1 = .error (.data cause)) ∧
    members.fields.columnNames.Nodup ∧ w.fillMode? = some .insert ∧
    List.Forall₂ (members.fields.Fieldwise (Record.Kept memberMapper.fills .insert))
      [row, row, row] [(7, "kept", ("ann", 1, ()), some "new", ()),
        (7, "kept", ("ann", 2, ()), none, ()), row] ∧
    (Write.update [] row).entitiesAfter memberMapper members.criteria memberSession = [row] := by
  intro row w
  obtain ⟨hgeneral, hrecord⟩ :=
    @entitiesAfter_only_filled Script Nat members.Object memberMapper memberSession
  have hdistinct : members.fields.columnNames.Nodup := by decide
  have hkept := hrecord members w .insert hdistinct rfl
  have hunfilled := (hgeneral members.criteria (.update [] row)).1
  exact ⟨⟨_, rfl⟩, hdistinct, rfl, hkept, hunfilled⟩

end Write

end SqlMapper
