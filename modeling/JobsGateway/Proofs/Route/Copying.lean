import JobsGateway.Proofs.Route.Filling

/-!
# Backend paths are copies

A template that is the pattern itself is filled with the values at the places
they were taken from. So the backend path is the path of the request, without its
leading slashes and with nothing else changed, and it does not matter which of
several routes copied it. A template that asks for a value which is not captured
has no backend path at all.
-/

namespace JobsGateway.Route

variable {r : Route} {path : Text} {captured : Captured}

/-- A route whose template is its inbound pattern without leading slashes, and
whose parameters have different names. -/
structure Mirrors (r : Route) : Prop where
  names : (params r.pattern).Nodup
  template : r.template = Text.dropLeading '/' r.inbound

theorem mirrors_of_table {r : Route} (h : r ∈ table) : r.Mirrors := by
  have hall : ∀ r ∈ table, (params r.pattern).Nodup ∧
      r.template = Text.dropLeading '/' r.inbound := by decide +kernel
  exact ⟨(hall r h).1, (hall r h).2⟩

theorem Mirrors.templateSegments (h : r.Mirrors) : r.templateSegments = r.pattern := by
  rw [Route.templateSegments, h.template]
  rfl

/-! ## Names and values -/

theorem mem_params_iff {pattern : List Segment} {name : Text} :
    name ∈ params pattern ↔ .param name ∈ pattern := by
  induction pattern with
  | nil => simp
  | cons segment pattern ih =>
      cases segment with
      | literal text => simp [ih]
      | param other => simp [ih]

theorem names_of_bindings {pattern : List Segment} {pieces : List Text}
    (h : Fits pattern pieces) : (bindings pattern pieces).map Prod.fst = params pattern := by
  obtain ⟨values, hfill, -⟩ := fits_iff_fillPattern.mp h
  rw [bindings_of_fillPattern hfill]
  exact List.map_fst_zip (Nat.le_of_eq (length_of_fillPattern hfill).symm)

/-- Where names are different, each is looked up with its own value. -/
theorem lookup_of_mem (hnames : (captured.map Prod.fst).Nodup) {name value : Text}
    (h : (name, value) ∈ captured) : captured.lookup name = some value := by
  obtain ⟨before, after, rfl⟩ := List.append_of_mem h
  rw [List.map_append, List.map_cons, List.nodup_append] at hnames
  refine List.lookup_eq_some_iff.mpr ⟨before, after, rfl, ?_⟩
  intro b hb
  rw [bne_iff_ne]
  exact (hnames.2.2 b.1 (List.mem_map_of_mem hb) name List.mem_cons_self).symm

/-- A pattern is filled to the segments that its values were taken from. -/
theorem map_fillSegment {pattern : List Segment} {pieces : List Text} (hfits : Fits pattern pieces)
    (h : ∀ name value, (name, value) ∈ bindings pattern pieces →
      captured.lookup name = some value) :
    pattern.map (fillSegment captured) = pieces.map some := by
  induction hfits with
  | done => rfl
  | literal _ ih =>
      rw [List.map_cons, List.map_cons, ih h]
      rfl
  | param _ _ ih =>
      rw [List.map_cons, List.map_cons,
        ih fun name value hmem => h name value (List.mem_cons_of_mem _ hmem), fillSegment,
        h _ _ List.mem_cons_self]

/-! ## Copies -/

/-- **A route that mirrors its pattern copies every path that it captures.** -/
theorem Mirrors.backendPath (h : r.Mirrors) (path : Text) :
    r.backendPath path = (r.capture path).map fun _ => Text.dropLeading '/' path := by
  unfold Route.backendPath
  cases hcapture : r.capture path with
  | none => rfl
  | some captured =>
      obtain ⟨hfits, rfl, -⟩ := captureSegments_eq_some_iff.mp hcapture
      have hnames : ((bindings r.pattern (segmentsOf path)).map Prod.fst).Nodup := by
        rw [names_of_bindings hfits]
        exact h.names
      have hpieces := mapM_eq_some_iff.mpr
        (map_fillSegment hfits fun _ _ hmem => lookup_of_mem hnames hmem)
      show (r.templateSegments.mapM (fillSegment _)).bind (fun pieces =>
        some (Text.join '/' pieces)) = some (Text.dropLeading '/' path)
      rw [h.templateSegments, hpieces, Option.bind_some, segmentsOf, Text.join_split]

theorem Mirrors.eq_of_backendPath (h : r.Mirrors) {u : Text} (hu : r.backendPath path = some u) :
    u = Text.dropLeading '/' path := by
  rw [h.backendPath, Option.map_eq_some_iff] at hu
  obtain ⟨_, -, rfl⟩ := hu
  rfl

/-- A parameter of the template that the pattern does not have is never filled. -/
theorem backendPath_eq_none {name : Text} (hname : name ∈ params r.templateSegments)
    (hmissing : name ∉ params r.pattern) (path : Text) : r.backendPath path = none := by
  rw [Option.eq_none_iff_forall_ne_some]
  intro u hu
  obtain ⟨captured, hcapture, hu⟩ := Option.bind_eq_some_iff.mp hu
  obtain ⟨pieces, hpieces, -⟩ := Option.bind_eq_some_iff.mp hu
  have hmem := List.mem_map_of_mem (f := fillSegment captured) (mem_params_iff.mp hname)
  rw [mapM_eq_some_iff.mp hpieces] at hmem
  obtain ⟨value, -, hvalue⟩ := List.mem_map.mp hmem
  obtain ⟨before, after, hsplit, -⟩ := List.lookup_eq_some_iff.mp hvalue.symm
  obtain ⟨hfits, hbindings, -⟩ := captureSegments_eq_some_iff.mp hcapture
  apply hmissing
  rw [← names_of_bindings hfits, ← hbindings, hsplit]
  simp

/-- **Backend paths are copies.** A route whose template is its pattern, with
different names for its parameters, has a backend path for the paths that it
captures and for no others, and this is the path without its leading slashes,
whatever the values look like. Every route of the table is one. So two paths that
differ after their leading slashes have different backend paths, and routes of the
table that capture the same path have the same backend path. A template that
names a parameter which is not in the pattern has no backend path. -/
theorem backendPath_copies_path :
    (∀ r : Route, r.Mirrors → ∀ path,
      r.backendPath path = (r.capture path).map fun _ => Text.dropLeading '/' path) ∧
    (∀ r ∈ table, r.Mirrors) ∧
    (∀ r r' : Route, r.Mirrors → r'.Mirrors → ∀ path path' u, r.backendPath path = some u →
      r'.backendPath path' = some u →
        Text.dropLeading '/' path = Text.dropLeading '/' path') ∧
    (∀ r ∈ table, ∀ r' ∈ table, ∀ path, (r.capture path).isSome = true →
      (r'.capture path).isSome = true → r.backendPath path = r'.backendPath path) ∧
    ∀ (r : Route) (name : Text), name ∈ params r.templateSegments → name ∉ params r.pattern →
      ∀ path, r.backendPath path = none := by
  refine ⟨fun r h path => h.backendPath path, fun r h => mirrors_of_table h, ?_, ?_, ?_⟩
  · intro r r' h h' path path' u hu hu'
    rw [← h.eq_of_backendPath hu, ← h'.eq_of_backendPath hu']
  · intro r hr r' hr' path hcapture hcapture'
    obtain ⟨captured, hcaptured⟩ := Option.isSome_iff_exists.mp hcapture
    obtain ⟨captured', hcaptured'⟩ := Option.isSome_iff_exists.mp hcapture'
    rw [(mirrors_of_table hr).backendPath, (mirrors_of_table hr').backendPath, hcaptured,
      hcaptured']
    rfl
  · intro r name hname hmissing path
    exact backendPath_eq_none hname hmissing path

/-- Values that look like parameters are not filled in again, two routes agree on
a path that both of them capture, and a template with a parameter of its own has no
backend path. -/
theorem swapped_names_are_copied :
    (same "swap" .get "jobs/\x7ba\x7d/of/\x7bb\x7d").backendPath
        "//jobs/\x7bb\x7d/of/\x7ba\x7d".toList = some "jobs/\x7bb\x7d/of/\x7ba\x7d".toList ∧
      (same "get_job_for_conversation" .get
          "jobs/conversation/\x7bconversation_id\x7d").backendPath
            "/jobs/conversation/status".toList =
        (same "get_job_status" .get "jobs/\x7bjob_id\x7d/status").backendPath
          "/jobs/conversation/status".toList ∧
      (⟨[], .get, "/jobs/\x7ba\x7d".toList, "jobs/\x7bb\x7d".toList⟩ : Route).backendPath
        "/jobs/7".toList = none := by
  obtain ⟨hcopy, -, -, hagree, hnone⟩ := backendPath_copies_path
  refine ⟨?_, ?_, ?_⟩
  · rw [hcopy _ ⟨by decide +kernel, by decide⟩]
    decide +kernel
  · exact hagree _ (by decide) _ (by decide) _ (by decide +kernel) (by decide +kernel)
  · exact hnone _ "b".toList (by decide +kernel) (by decide +kernel) _

end JobsGateway.Route
