import JobsGateway.Proofs.Client.Delivery

/-!
# The fields on the wire

User name and password of a URL become credentials where there are none. What
the client accepts, the host and the length of a body are added in the same way,
and no other name is touched. So the values of each name on the wire follow from
the values that it has before.
-/

namespace JobsGateway.Outgoing

section Built

variable {method : Text} {url : Url} {fields : Fields} {body : Option Bytes} {r : Outgoing}

/-- A URL with a host can be asked for something. -/
theorem exists_build (h : url.host?.isSome = true) (method : Text) (fields : Fields)
    (body : Option Bytes) : ∃ r, build method url fields body = .ok r := by
  have hhost : ¬ url.host?.isNone = true := by
    rw [Option.isNone_iff_eq_none, ← Option.not_isSome_iff_eq_none, h]
    simp
  unfold build
  rw [if_neg hhost]
  cases url.userinfo? with
  | none => exact ⟨_, rfl⟩
  | some info => exact ⟨_, rfl⟩

theorem scheme_of_build (h : build method url fields body = .ok r) :
    r.url.scheme = url.scheme := by
  show r.url.withoutUserinfo.scheme = url.withoutUserinfo.scheme
  rw [(build_eq_ok h).2.2.1]

theorem fields_of_build (h : build method url fields body = .ok r) :
    r.fields = match url.userinfo? with
      | none => fields
      | some (username, password) =>
        fields.putNew FieldName.authorization (basic username password) := by
  unfold build at h
  split at h
  · cases h
  · cases hinfo : url.userinfo? with
    | none =>
        rw [hinfo] at h
        cases h
        rfl
    | some info =>
        rw [hinfo] at h
        cases h
        rfl

/-- Credentials from the URL do not touch any other name. -/
theorem values_of_build (h : build method url fields body = .ok r) {name : Text}
    (hname : FieldName.authorization ≠ name) : r.fields.values name = fields.values name := by
  rw [fields_of_build h]
  split
  · rfl
  · exact Fields.values_putNew_of_ne _ hname _

theorem values_authorization_of_build (h : build method url fields body = .ok r) :
    r.fields.values FieldName.authorization =
      if fields.values FieldName.authorization = [] then
        (url.userinfo?.map fun info => basic info.1 info.2).toList
      else fields.values FieldName.authorization := by
  rw [fields_of_build h]
  cases url.userinfo? with
  | none =>
      dsimp only
      split
      · assumption
      · rfl
  | some info => exact Fields.values_putNew_self ..

end Built

/-- The client adds what it accepts, the host, and the length of a body that is
not empty. -/
theorem wireFields_eq (r : Outgoing) :
    r.wireFields =
      let addressed := (r.fields.putNew FieldName.accept (octets "*/*")).putNew FieldName.host
        (Utf8.encode r.url.hostText)
      if r.body.getD [] = [] then addressed
      else addressed.putNew FieldName.contentLength (numberOctets (r.body.getD []).length) := by
  unfold wireFields
  cases hbody : r.body with
  | none => rfl
  | some body =>
      cases body with
      | nil => rfl
      | cons b rest => rfl

theorem values_wireFields_of_other {r : Outgoing} {name : Text}
    (haccept : FieldName.accept ≠ name) (hhost : FieldName.host ≠ name)
    (hlength : FieldName.contentLength ≠ name) :
    r.wireFields.values name = r.fields.values name := by
  rw [wireFields_eq]
  dsimp only
  split
  · rw [Fields.values_putNew_of_ne _ hhost, Fields.values_putNew_of_ne _ haccept]
  · rw [Fields.values_putNew_of_ne _ hlength, Fields.values_putNew_of_ne _ hhost,
      Fields.values_putNew_of_ne _ haccept]

theorem values_accept_wireFields (r : Outgoing) :
    r.wireFields.values FieldName.accept =
      if r.fields.values FieldName.accept = [] then [octets "*/*"]
      else r.fields.values FieldName.accept := by
  rw [wireFields_eq, ← Fields.values_putNew_self]
  dsimp only
  split
  · rw [Fields.values_putNew_of_ne _ (by decide)]
  · rw [Fields.values_putNew_of_ne _ (by decide), Fields.values_putNew_of_ne _ (by decide)]

/-- The length is told exactly if there is a body. -/
theorem values_contentLength_wireFields {r : Outgoing}
    (h : r.fields.values FieldName.contentLength = []) :
    r.wireFields.values FieldName.contentLength =
      if r.body.getD [] = [] then [] else [numberOctets (r.body.getD []).length] := by
  have haddressed : ((r.fields.putNew FieldName.accept (octets "*/*")).putNew FieldName.host
      (Utf8.encode r.url.hostText)).values FieldName.contentLength = [] := by
    rw [Fields.values_putNew_of_ne _ (by decide), Fields.values_putNew_of_ne _ (by decide), h]
  rw [wireFields_eq]
  dsimp only
  split
  · exact haddressed
  · rw [Fields.values_putNew_self, if_pos haddressed]

/-! ## What is read of a request that was built -/

section Delivered

variable {method : Text} {url : Url} {fields : Fields} {body : Option Bytes} {r : Outgoing}

/-- Under the names that the client does not write, what is sent is read. -/
theorem values_deliver_of_other (h : build method url fields body = .ok r) {name : Text}
    (hname : name ∉ clientFields) : r.deliver.fields.values name = fields.values name := by
  simp only [clientFields, List.mem_cons, List.not_mem_nil, or_false, not_or] at hname
  obtain ⟨hauthorization, haccept, hhost, hlength⟩ := hname
  rw [deliver, values_wireFields_of_other (Ne.symm haccept) (Ne.symm hhost) (Ne.symm hlength),
    values_of_build h (Ne.symm hauthorization)]

theorem values_authorization_deliver (h : build method url fields body = .ok r) :
    r.deliver.fields.values FieldName.authorization =
      if fields.values FieldName.authorization = [] then
        (url.userinfo?.map fun info => basic info.1 info.2).toList
      else fields.values FieldName.authorization := by
  rw [deliver, values_wireFields_of_other (by decide) (by decide) (by decide),
    values_authorization_of_build h]

theorem values_accept_deliver (h : build method url fields body = .ok r) :
    r.deliver.fields.values FieldName.accept =
      if fields.values FieldName.accept = [] then [octets "*/*"]
      else fields.values FieldName.accept := by
  rw [deliver, values_accept_wireFields, values_of_build h (by decide)]

theorem values_host_deliver (h : build method url fields body = .ok r)
    (hnone : fields.values FieldName.host = []) :
    r.deliver.fields.values FieldName.host = [Utf8.encode url.hostText] := by
  have hunnamed : r.fields.has FieldName.host = false := by
    rw [Fields.has_eq_false_iff, values_of_build h (by decide), hnone]
  rw [deliver, values_host_wireFields hunnamed, hostText_of_build h]

theorem values_contentLength_deliver (h : build method url fields body = .ok r)
    (hnone : fields.values FieldName.contentLength = []) :
    r.deliver.fields.values FieldName.contentLength =
      if body.getD [] = [] then [] else [numberOctets (body.getD []).length] := by
  have huntold : r.fields.values FieldName.contentLength = [] := by
    rw [values_of_build h (by decide), hnone]
  rw [deliver, values_contentLength_wireFields huntold, (build_eq_ok h).2.1]

end Delivered

end JobsGateway.Outgoing
