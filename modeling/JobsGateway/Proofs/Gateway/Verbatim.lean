import JobsGateway.Proofs.Client.Writing
import JobsGateway.Proofs.Gateway.Length

/-!
# A reply is passed on as it is

The gateway reads nothing into a reply. Whatever the status, it goes out with
the body that was carried and with all values of all fields, but for those about
one connection. A length is added where the reply tells none. How the body was
framed on its way to the gateway makes no difference.
-/

namespace JobsGateway

/-- An answer to a request of a method passes a reply on: the status, the body
(HEAD gets none), and under each name the values that the reply has. Fields about
the connection stay behind, and a length is added where there is none. -/
structure Response.Relays (r : Response) (method : Text) (reply : Response) : Prop where
  status : r.status = reply.status
  body : r.body = if method = Method.head then [] else reply.body
  connection : ∀ name ∈ Crossing.connectionFields, r.fields.values name = []
  length : r.fields.values FieldName.contentLength =
    if reply.fields.values FieldName.contentLength = [] then [numberOctets reply.body.length]
    else reply.fields.values FieldName.contentLength
  others : ∀ name, name ∉ Crossing.connectionFields → name ≠ FieldName.contentLength →
    r.fields.values name = reply.fields.values name

namespace Gateway

theorem values_relay (reply : Response) (name : Text) :
    (Backend.relay reply).fields.values name =
      if name ∈ Crossing.connectionFields then [] else reply.fields.values name := by
  show (Fields.without reply.fields Crossing.connectionFields).values name = _
  exact Fields.values_without ..

/-- What is relayed and then finished passes the reply on. -/
theorem relays_finish (method : Text) (reply : Response) :
    (finish method (Backend.relay reply)).Relays method reply where
  status := status_finish ..
  body := body_finish ..
  connection := by
    intro name hname
    have hne : ∀ name ∈ Crossing.connectionFields, FieldName.contentLength ≠ name := by decide
    rw [values_finish_of_ne (hne name hname), values_relay, if_pos hname]
  length := by
    have hkept : FieldName.contentLength ∉ Crossing.connectionFields := by decide
    rw [values_finish_contentLength, values_relay, if_neg hkept]
    rfl
  others := by
    intro name hname hlength
    rw [values_finish_of_ne (Ne.symm hlength), values_relay, if_neg hname]

/-- **A reply is passed on as it is.** Where an admitted request may be sent and
the backend sends a whole reply, the answer passes that reply on, however the
backend leaves off after it. If the reply was written with a status, fields and a
body, the answer has that status, that body and the values of those fields,
whether the body was framed by its length, in chunks of any size, or by the end
of the connection. -/
theorem handle_relays_verbatim {g : Gateway} {request : Request} {route : Route}
    {caller : Caller} {path : Text} {inbound : Inbound} {out : Outgoing}
    (hadmits : g.Admits request route caller path inbound out) (hsend : out.MayBeSent) :
    (∀ octets parting reply, g.network out.url = .sends octets parting →
      Reply.Received parting out.method octets reply →
      (g.handle request).result.Relays request.method reply) ∧
    (∀ status reason fields body octets parting,
      Reply.WritableReply out.method status reason fields body →
      Reply.Written status reason fields body octets parting →
      g.network out.url = .sends octets parting →
      (g.handle request).result.status = status ∧
      (g.handle request).result.body = (if request.method = Method.head then [] else body) ∧
      ∀ name, name ∉ Crossing.connectionFields → name ≠ FieldName.contentLength →
        (g.handle request).result.fields.values name =
          (fields.values name).map Reply.trimBlanks) := by
  have hrelays : ∀ octets parting reply, g.network out.url = .sends octets parting →
      Reply.Received parting out.method octets reply →
        (g.handle request).result.Relays request.method reply := by
    intro octets parting reply hsends hreceived
    have hanswer : out.answer g.network = .ok reply :=
      Outgoing.answer_eq_ok_iff.mpr ⟨hsend, octets, parting, hsends, hreceived⟩
    rw [hadmits.result_of_answer hanswer]
    exact relays_finish ..
  refine ⟨hrelays, ?_⟩
  intro status reason fields body octets parting hwritable hwritten hsends
  obtain ⟨reply, hreceived, hstatus, hbody, hvalues⟩ :=
    Reply.exists_received_of_written hwritable hwritten
  have h := hrelays octets parting reply hsends hreceived
  refine ⟨h.status.trans hstatus, ?_, ?_⟩
  · rw [h.body, hbody]
  · intro name hname hlength
    have hcoding : name ≠ FieldName.transferEncoding := by
      rintro rfl
      exact hname (by decide)
    rw [h.others name hname hlength, hvalues name hlength hcoding]

/-- A redirection that comes in chunks goes out as it is, with both of its
cookies, and is not followed. Asked for with HEAD it has no body. -/
theorem redirection_goes_out_as_it_is :
    let fields : Fields := [⟨"location".toList, octets "/elsewhere"⟩,
      ⟨"set-cookie".toList, octets "a=1"⟩, ⟨"set-cookie".toList, octets "b=2"⟩]
    let text := Reply.writeHead ⟨302⟩ "Found" (fields ++ [Reply.chunkedField]) ++
      Reply.writeChunks [octets "mov", octets "ed"]
    let g : Gateway := ⟨⟨"http://127.0.0.1:55551".toList, ⟨30000⟩⟩, 16,
      .fixed (.ok (.ofId "u1".toList)), fun _ => .answers text⟩
    let request (method : Text) : Request :=
      ⟨method, .path "/jobs".toList none, [], ⟨[], none⟩⟩
    (g.handle (request Method.get)).result.status = ⟨302⟩ ∧
      (g.handle (request Method.get)).result.body = octets "moved" ∧
      (g.handle (request Method.get)).result.fields.values "set-cookie".toList =
        [octets "a=1", octets "b=2"] ∧
      (g.handle (request Method.get)).result.fields.values FieldName.transferEncoding = [] ∧
      (g.handle (request Method.head)).result.body = [] := by
  intro fields text g request
  obtain ⟨out, hsend, hmethod, hadmits⟩ := exists_admits_list
  have hadmits (method : Text) (hmethod : method ∈ [Method.get, Method.head]) :=
    hadmits method hmethod g.network
  have hwritable : Reply.WritableReply out.method ⟨302⟩ "Found" fields (octets "moved") := by
    rw [hmethod]
    have hfields : ∀ f ∈ fields, f.IsWritable := by
      intro f hf
      simp only [fields, List.mem_cons, List.not_mem_nil, or_false] at hf
      rcases hf with rfl | rfl | rfl <;> decide
    have hphrase : ∀ b ∈ octets "Found", isFieldOctet b = true :=
      List.all_eq_true.mp (by decide)
    exact ⟨⟨by decide, by decide, hphrase, hfields, by decide⟩, by decide, by decide, by decide,
      by decide, by decide⟩
  have hwritten : Reply.Written ⟨302⟩ "Found" fields (octets "moved") text .closes :=
    .chunked (by decide) (by decide)
  obtain ⟨hrelays, hresult⟩ := handle_relays_verbatim (hadmits Method.get (by simp)) hsend
  obtain ⟨hstatus, hbody, hvalues⟩ := hresult _ _ _ _ _ _ hwritable hwritten rfl
  obtain ⟨reply, hreceived, -⟩ := Reply.exists_received_of_written hwritable hwritten
  obtain ⟨-, hhead⟩ := handle_relays_verbatim (hadmits Method.head (by simp)) hsend
  obtain ⟨-, hempty, -⟩ := hhead _ _ _ _ _ _ hwritable hwritten rfl
  refine ⟨hstatus, hbody, ?_, (hrelays _ _ reply rfl hreceived).connection _ (by decide), hempty⟩
  rw [hvalues _ (by decide) (by decide)]
  decide

end Gateway

end JobsGateway
