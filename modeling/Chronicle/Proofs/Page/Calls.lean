-- SUMMARY: The calls that a request for a page makes: one scan, and items made up to the first that fails.
import Chronicle.Proofs.Page.Walk
import Chronicle.Proofs.Uid.Canonical

/-!
# Calls made for a page

A source and a maker of items act on a state and may answer as they like, the source also with rows
that it was not asked for. Watched, they leave a record of their calls. A bad request leaves none. A
good one leaves one scan, and if that succeeds, the records of the rows shown are made into items in
the order of display until one of them fails.
-/

namespace Chronicle.Page

variable {σ F V T : Type}

/-! ## Good requests and bad ones -/

/-- The order in which a scan moves away from an anchor. -/
def Anchor.away (display : Direction) : Anchor → Direction
  | .after _ => display
  | .before _ => display.reverse

namespace Query

/-- A request for a page in no direction or in both, for no rows, or at a cursor that is neither
empty nor a display form. -/
def Bad (q : Query) : Prop :=
  q.before.isSome = q.after.isSome ∨ q.limit ≤ 0 ∨
    ∃ c, (q.before = some c ∨ q.after = some c) ∧ c ≠ "" ∧ ∀ u : Uid, c ≠ u.toDisplay

/-- A request names an anchor: it gives a cursor in this direction and none in the other. -/
def Names (q : Query) : Anchor → Prop
  | .after c => q.before = none ∧ q.after = some c
  | .before c => q.before = some c ∧ q.after = none

/-- What is wrong with a request. The direction is looked at first, then the limit, then the
cursor. -/
inductive Refused (q : Query) : Refusal → Prop
  | direction (h : q.before.isSome = q.after.isSome) : Refused q .direction
  | limit {a : Anchor} (ha : q.Names a) (hlimit : q.limit ≤ 0) : Refused q (.limit q.limit.toInt)
  | cursor {a : Anchor} (ha : q.Names a) (hlimit : 0 < q.limit) (hne : a.cursor ≠ "")
    (hform : ∀ u : Uid, a.cursor ≠ u.toDisplay) : Refused q (.cursor a.cursor)

/-- The key that a cursor stands for. -/
inductive Marks : String → Option Uid → Prop
  | edge : Marks "" none
  | key (u : Uid) : Marks u.toDisplay (some u)

/-- A good request asks for a page at an anchor, and thereby for a scan that moves away from the
cursor, for one row more than the page may hold. -/
structure Asks (q : Query) (display : Direction) (a : Anchor) (s : Scan Uid) : Prop where
  names : q.Names a
  limit_pos : 0 < q.limit
  start : Marks a.cursor s.startAfter
  direction : s.direction = a.away display
  limit : s.limit = q.limit.toNatClampNeg + 1

variable {q : Query} {a : Anchor} {c : String} {display : Direction} {s : Scan Uid}

theorem Names.anchor? (h : q.Names a) : q.anchor? = some a := by
  cases a with
  | after c => simp [Query.anchor?, h.1, h.2]
  | before c => simp [Query.anchor?, h.1, h.2]

theorem Names.isSome_ne (h : q.Names a) : q.before.isSome ≠ q.after.isSome := by
  cases a with
  | after c => simp [h.1, h.2]
  | before c => simp [h.1, h.2]

/-- The cursor of the anchor is the only one that the request gives. -/
theorem Names.cursor_iff (h : q.Names a) : q.before = some c ∨ q.after = some c ↔ a.cursor = c := by
  cases a with
  | after c => simp [h.1, h.2, Anchor.cursor]
  | before c => simp [h.1, h.2, Anchor.cursor]

theorem anchor?_eq_none (h : q.before.isSome = q.after.isSome) : q.anchor? = none := by
  obtain ⟨before, after, limit⟩ := q
  cases before with
  | none =>
    cases after with
    | none => rfl
    | some c => cases h
  | some b =>
    cases after with
    | none => cases h
    | some c => rfl

theorem exists_names (h : q.before.isSome ≠ q.after.isSome) : ∃ a, q.Names a := by
  obtain ⟨before, after, limit⟩ := q
  cases before with
  | none =>
    cases after with
    | none => exact absurd rfl h
    | some c => exact ⟨.after c, rfl, rfl⟩
  | some b =>
    cases after with
    | none => exact ⟨.before b, rfl, rfl⟩
    | some c => exact absurd rfl h

theorem exists_marks (c : String) :
    (∃ start, Marks c start) ∨ c ≠ "" ∧ ∀ u : Uid, c ≠ u.toDisplay := by
  by_cases hedge : c = ""
  · subst hedge
    exact .inl ⟨none, .edge⟩
  by_cases hform : ∃ u : Uid, c = u.toDisplay
  · obtain ⟨u, rfl⟩ := hform
    exact .inl ⟨some u, .key u⟩
  · exact .inr ⟨hedge, not_exists.1 hform⟩

theorem refused_or_asks (q : Query) (display : Direction) :
    (∃ why, q.Refused why) ∨ ∃ a s, q.Asks display a s := by
  by_cases hdirection : q.before.isSome = q.after.isSome
  · exact .inl ⟨_, .direction hdirection⟩
  obtain ⟨a, ha⟩ := exists_names hdirection
  by_cases hlimit : 0 < q.limit
  · obtain ⟨start, hstart⟩ | ⟨hne, hform⟩ := exists_marks a.cursor
    · exact .inr ⟨a, ⟨start, _, _⟩, ha, hlimit, hstart, rfl, rfl⟩
    · exact .inl ⟨_, .cursor ha hlimit hne hform⟩
  · exact .inl ⟨_, .limit ha (Int64.not_lt.1 hlimit)⟩

theorem Refused.bad {why : Refusal} (h : q.Refused why) : q.Bad := by
  cases h with
  | direction h => exact .inl h
  | limit ha hlimit => exact .inr (.inl hlimit)
  | cursor ha hlimit hne hform => exact .inr (.inr ⟨_, ha.cursor_iff.2 rfl, hne, hform⟩)

theorem Asks.not_bad (h : q.Asks display a s) : ¬ q.Bad := by
  rintro (hdirection | hlimit | ⟨c, hcursor, hne, hform⟩)
  · exact h.names.isSome_ne hdirection
  · exact Int64.not_le.2 h.limit_pos hlimit
  · obtain rfl := h.names.cursor_iff.1 hcursor
    have hstart := h.start
    generalize a.cursor = c, s.startAfter = start at hne hform hstart
    cases hstart with
    | edge => exact hne rfl
    | key u => exact hform u rfl

end Query

/-! ## The plan of a request -/

section Plan

variable {q : Query} {o : Options F Uid}

theorem startKey_of_marks {c : String} {start : Option Uid} (h : Query.Marks c start) :
    startKey .uid c = .ok start := by
  cases h with
  | edge => rfl
  | key u => exact startKey_uid u

theorem startKey_eq_error {c : String} (hne : c ≠ "") (hform : ∀ u : Uid, c ≠ u.toDisplay) :
    startKey .uid c = .error (.params (.cursor c)) := by
  have hparse : CursorCodec.uid.parse c = .error (.params (.cursor c)) := by
    simp only [CursorCodec.uid, Uid.ofDisplay?_eq_none_iff_ne.2 hform]
  rw [startKey, if_neg hne, hparse]
  rfl

theorem plan_of_refused (hcodec : o.codec = .uid) {why : Refusal} (h : q.Refused why) :
    plan q o = .error (.params why) := by
  cases h with
  | direction h => simp only [plan, Query.validate, Query.anchor?_eq_none h]
  | limit ha hlimit =>
    simp only [plan, Query.validate, ha.anchor?, if_neg (Int64.not_lt.2 hlimit)]
  | cursor ha hlimit hne hform =>
    simp only [plan, Query.validate, ha.anchor?, if_pos hlimit, hcodec, startKey_eq_error hne hform]

theorem plan_of_asks (hcodec : o.codec = .uid) {a : Anchor} {s : Scan Uid}
    (h : q.Asks o.order a s) : plan q o = .ok (s, q.limit.toNatClampNeg) := by
  have hscan : s = ⟨s.startAfter, o.scanOrder a, q.limit.toNatClampNeg + 1⟩ := by
    obtain ⟨start, direction, limit⟩ := s
    obtain rfl := h.direction
    obtain rfl := h.limit
    cases a with
    | after => rfl
    | before => rfl
  rw [hscan]
  exact plan_eq_ok h.names.anchor? h.limit_pos (hcodec ▸ startKey_of_marks h.start)

end Plan

/-! ## Calls on record -/

/-- A call that is made for a page. -/
inductive Call (F V : Type) where
  /-- The source is scanned. -/
  | scan (filter : F) (s : Scan Uid)
  /-- An item is made of a record. -/
  | make (record : V)

/-- Something that acts on a state and may fail. -/
abbrev Act (σ α : Type) := σ → Except Fault α × σ

/-- Acts on a state, with a record of the calls to them. -/
abbrev Watched (σ F V : Type) := ExceptT Fault (StateM (σ × List (Call F V)))

/-- An act that puts a call on record. -/
def watch {α : Type} (call : Call F V) (act : Act σ α) : Watched σ F V α :=
  ExceptT.mk fun (s, calls) => ((act s).1, (act s).2, calls ++ [call])

/-- The answer to a request for a page, with the state after it and the calls made for it. -/
def watchedFind (q : Query) (o : Options F Uid) (scan : F → Scan Uid → Act σ (List (Uid × V)))
    (make : V → Act σ T) (s : σ) : Except Fault (Page T) × σ × List (Call F V) :=
  (find q (fun filter request => watch (.scan filter request) (scan filter request)) o
    fun record => watch (.make record) (make record)).run.run (s, [])

/-- Records become items one after another. -/
inductive Made (make : V → Act σ T) : σ → List V → List T → σ → Prop
  | nil (s : σ) : Made make s [] [] s
  | cons {s s₁ s₂ : σ} {v : V} {vs : List V} {t : T} {ts : List T} (h : make v s = (.ok t, s₁))
    (rest : Made make s₁ vs ts s₂) : Made make s (v :: vs) (t :: ts) s₂

section Run

variable {α β τ : Type} {x : ExceptT Fault (StateM τ) α} {f : α → ExceptT Fault (StateM τ) β}
  {t t' : τ}

theorem run_bind_of_ok {a : α} (h : x.run.run t = (.ok a, t')) :
    (x >>= f).run.run t = (f a).run.run t' := by
  rw [ExceptT.run_bind, StateT.run_bind, h]
  rfl

theorem run_bind_of_error {fault : Fault} (h : x.run.run t = (.error fault, t')) :
    (x >>= f).run.run t = (.error fault, t') := by
  rw [ExceptT.run_bind, StateT.run_bind, h]
  rfl

end Run

theorem run_watch {α : Type} {act : Act σ α} {s s' : σ} {answer : Except Fault α}
    (h : act s = (answer, s')) (call : Call F V) (calls : List (Call F V)) :
    (watch call act).run.run (s, calls) = (answer, s', calls ++ [call]) := by
  show ((act s).1, (act s).2, calls ++ [call]) = _
  rw [h]

/-- The records of all rows are made into items, or those up to the first that fails. -/
theorem run_mapM_watch (make : V → Act σ T) (rows : List (Uid × V)) (s : σ)
    (calls : List (Call F V)) :
    let run := (rows.mapM fun row => watch (.make row.2) (make row.2)).run.run (s, calls)
    (∃ items s', Made make s (rows.map (·.2)) items s' ∧
      run = (.ok items, s', calls ++ rows.map (.make ·.2))) ∨
    ∃ done row rest items s' fault s'', rows = done ++ row :: rest ∧
      Made make s (done.map (·.2)) items s' ∧ make row.2 s' = (.error fault, s'') ∧
      run = (.error fault, s'', calls ++ (done ++ [row]).map (.make ·.2)) := by
  induction rows generalizing s calls with
  | nil => exact .inl ⟨[], s, .nil s, by rw [List.map_nil, List.append_nil]; rfl⟩
  | cons row rows ih =>
    rw [List.mapM_cons]
    cases hmake : make row.2 s with
    | mk answer s₁ =>
      have hfirst := run_watch hmake (.make row.2) calls
      cases answer with
      | error fault =>
        exact .inr ⟨[], row, rows, [], s, fault, s₁, rfl, .nil s, hmake, run_bind_of_error hfirst⟩
      | ok t =>
        rw [run_bind_of_ok hfirst]
        obtain ⟨ts, s₂, hmade, hrun⟩ | ⟨done, bad, rest, ts, s₂, fault, s₃, rfl, hmade, hfail, hrun⟩ :=
          ih s₁ (calls ++ [.make row.2])
        · refine .inl ⟨t :: ts, s₂, .cons hmake hmade, ?_⟩
          rw [run_bind_of_ok hrun, List.append_assoc]
          rfl
        · refine .inr ⟨row :: done, bad, rest, t :: ts, s₂, fault, s₃, rfl, .cons hmake hmade, hfail,
            ?_⟩
          rw [run_bind_of_error hrun, List.append_assoc]
          rfl

/-- What comes of the scan of a good request for at most `limit` rows: the answer, the state after it
and the calls made. -/
inductive Served (scan : F → Scan Uid → Act σ (List (Uid × V))) (make : V → Act σ T) (filter : F)
    (a : Anchor) (request : Scan Uid) (limit : Nat) (s : σ) :
    Except Fault (Page T) × σ × List (Call F V) → Prop
  /-- The scan fails, and no item is made. -/
  | scanFailed {fault : Fault} {s₁ : σ} (hscan : scan filter request s = (.error fault, s₁)) :
    Served scan make filter a request limit s (.error fault, s₁, [.scan filter request])
  /-- All records shown become items. The rows beyond the limit are left alone. -/
  | shown {rows : List (Uid × V)} {items : List T} {info : Info} {s₁ s₂ : σ}
    (hscan : scan filter request s = (.ok rows, s₁))
    (hmade : Made make s₁ ((a.turn (rows.take limit)).map (·.2)) items s₂) :
    Served scan make filter a request limit s
      (.ok ⟨items, info⟩, s₂,
        .scan filter request :: (a.turn (rows.take limit)).map (.make ·.2))
  /-- One of the records shown does not become an item, and none after it is tried. -/
  | itemFailed {rows done rest : List (Uid × V)} {row : Uid × V} {items : List T} {fault : Fault}
    {s₁ s₂ s₃ : σ} (hscan : scan filter request s = (.ok rows, s₁))
    (hshown : a.turn (rows.take limit) = done ++ row :: rest)
    (hmade : Made make s₁ (done.map (·.2)) items s₂) (hfailed : make row.2 s₂ = (.error fault, s₃)) :
    Served scan make filter a request limit s
      (.error fault, s₃, .scan filter request :: (done ++ [row]).map (.make ·.2))

section Watched

variable {q : Query} {o : Options F Uid} (scan : F → Scan Uid → Act σ (List (Uid × V)))
  (make : V → Act σ T) (s : σ)

theorem watchedFind_of_refused (hcodec : o.codec = .uid) {why : Refusal} (h : q.Refused why) :
    watchedFind q o scan make s = (.error (.params why), s, []) := by
  simp only [watchedFind, find, plan_of_refused hcodec h]
  rfl

theorem served_of_asks (hcodec : o.codec = .uid) {a : Anchor} {request : Scan Uid}
    (h : q.Asks o.order a request) :
    Served scan make o.filter a request q.limit.toNatClampNeg s
      (watchedFind q o scan make s) := by
  have hdirection : request.direction = o.scanOrder a := by
    rw [h.direction]
    cases a with
    | after => rfl
    | before => rfl
  simp only [watchedFind, find, plan_of_asks hcodec h, hdirection, shown_scanOrder]
  cases hscan : scan o.filter request s with
  | mk answer s₁ =>
    have hrun := run_watch hscan (Call.scan (V := V) o.filter request) []
    cases answer with
    | error fault =>
      rw [run_bind_of_error hrun]
      exact .scanFailed hscan
    | ok rows =>
      rw [run_bind_of_ok hrun, List.nil_append]
      obtain ⟨items, s₂, hmade, hitems⟩ | ⟨done, row, rest, items, s₂, fault, s₃, hshown, hmade,
          hfailed, hitems⟩ :=
        run_mapM_watch make (a.turn (rows.take q.limit.toNatClampNeg)) s₁
          [.scan o.filter request]
      · rw [run_bind_of_ok hitems]
        exact .shown hscan hmade
      · rw [run_bind_of_error hitems]
        exact .itemFailed hscan hshown hmade hfailed

end Watched

/-- A page of a watched source makes calls for a good request only: one scan, which is the one asked
for, and then items of the records shown, in the order of display, until one fails. A failure of the
scan or of an item is the answer. -/
theorem find_scans_once (q : Query) (filter : F) (descending : Bool)
    (scan : F → Scan Uid → Act σ (List (Uid × V))) (make : V → Act σ T) (s : σ) :
    let found := watchedFind q ⟨filter, descending, .uid⟩ scan make s
    ((∃ why, found.1 = .error (.params why)) ∧ found.2.2 = [] ↔ q.Bad) ∧
    (∀ why, q.Refused why → found = (.error (.params why), s, [])) ∧
    (¬ q.Bad → ∃ a request,
      q.Asks (if descending then .descending else .ascending) a request ∧
      Served scan make filter a request q.limit.toNatClampNeg s found) := by
  intro found
  let o : Options F Uid := ⟨filter, descending, .uid⟩
  have hrefused : ∀ why, q.Refused why → found = (.error (.params why), s, []) := fun why h =>
    watchedFind_of_refused (o := o) scan make s rfl h
  have hserved : ∀ a request, q.Asks o.order a request →
      Served scan make filter a request q.limit.toNatClampNeg s found := fun a request h =>
    served_of_asks (o := o) scan make s rfl h
  obtain ⟨why, h⟩ | ⟨a, request, h⟩ := q.refused_or_asks o.order
  · refine ⟨iff_of_true ?_ h.bad, hrefused, fun hgood => absurd h.bad hgood⟩
    rw [hrefused why h]
    exact ⟨⟨why, rfl⟩, rfl⟩
  · refine ⟨iff_of_false ?_ h.not_bad, hrefused, fun _ => ⟨a, request, h, hserved a request h⟩⟩
    rintro ⟨-, hcalls⟩
    have hcalled := hserved a request h
    generalize found = found at hcalls hcalled
    cases hcalled <;> cases hcalls

/-- A source that gives three rows where two were asked for, and a maker that counts. The page
before the edge shows the first row only. -/
example (u : Uid) :
    watchedFind (.ofBefore "" 1) ⟨(), false, .uid⟩
        (fun _ _ n => (.ok [(u, "a"), (u, "b"), (u, "c")], n + 1))
        (fun record n => (.ok (record, n), n + 1)) 0
      = (.ok ⟨[("a", 1)], ⟨u.toDisplay, u.toDisplay, true⟩⟩, 2,
          [.scan () ⟨none, .descending, 2⟩, .make "a"]) := rfl

end Chronicle.Page
