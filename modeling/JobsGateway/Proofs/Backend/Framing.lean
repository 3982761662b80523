import JobsGateway.Proofs.Backend.Addressee
import JobsGateway.Proofs.Backend.CallerFields
import JobsGateway.Proofs.Client.Wire
import JobsGateway.Proofs.Gateway.Exchange

/-!
# How a request to the backend is framed

What a caller writes about the connection, the host or the length of its request
stays behind. The client then writes the host of the origin and the length of
the body that it sends, each once, and no other field comes to say anything
about them.
-/

namespace JobsGateway

namespace Crossing

/-- What is held back is not written anew, but for the fields about the caller. -/
theorem values_outbound_of_dropped {inbound out : Fields} {caller : Option Caller}
    (h : outbound inbound caller = .ok out) {name : Text} (hheld : name ∈ heldBack)
    (hname : ∀ f : CallerField, f.fieldName ≠ name) : out.values name = [] := by
  rw [values_outbound h, if_pos hheld]
  cases caller with
  | none => rfl
  | some c => exact writtenValues_eq_nil hname

/-- What is neither held back nor about the caller crosses as it is. -/
theorem values_outbound_of_kept {inbound out : Fields} {caller : Option Caller}
    (h : outbound inbound caller = .ok out) {name : Text} (hheld : name ∉ heldBack) :
    out.values name = inbound.values name := by
  have hname : ∀ f : CallerField, f.fieldName ≠ name := by
    rintro f rfl
    exact hheld (fieldName_mem_heldBack f)
  rw [values_outbound h, if_neg hheld]
  cases caller with
  | none => exact List.append_nil _
  | some c =>
      show _ ++ writtenValues c name = _
      rw [writtenValues_eq_nil hname, List.append_nil]

/-- The host, the length and whatever is about the connection do not cross. -/
theorem values_outbound_of_framing {inbound out : Fields} {caller : Option Caller}
    (h : outbound inbound caller = .ok out) {name : Text}
    (hname : name ∈ FieldName.host :: FieldName.contentLength :: connectionFields) :
    out.values name = [] := by
  have hheld : ∀ name ∈ FieldName.host :: FieldName.contentLength :: connectionFields,
      name ∈ heldBack ∧ ∀ f ∈ CallerField.all, f.fieldName ≠ name := by decide
  obtain ⟨hmem, hne⟩ := hheld name hname
  exact values_outbound_of_dropped h hmem fun f => hne f f.mem_all

end Crossing

/-- A request as its backend reads it, from the origin, the fields that the caller
sent, those that cross, and the octets that are sent. -/
structure Delivery.Framed (d : Delivery) (origin : Url) (inbound fields : Fields)
    (sent : Bytes) : Prop where
  host : ∃ authority host, origin.authority = some authority ∧ authority.host = some host ∧
    authority.portNumber ≠ Url.defaultPort? origin.scheme ∧
    d.fields.values FieldName.host = [Utf8.encode (host.text ++ authority.portText)]
  connection : ∀ name ∈ Crossing.connectionFields, d.fields.values name = []
  body : d.body = sent
  length : d.fields.values FieldName.contentLength =
    if sent = [] then [] else [numberOctets sent.length]
  accept : d.fields.values FieldName.accept =
    if inbound.values FieldName.accept = [] then [octets "*/*"]
    else inbound.values FieldName.accept
  credentials : d.fields.values FieldName.authorization =
    if inbound.values FieldName.authorization = [] then
      (origin.userinfo?.map fun info => Outgoing.basic info.1 info.2).toList
    else inbound.values FieldName.authorization
  others : ∀ name, name ∉ [FieldName.host, FieldName.contentLength, FieldName.accept,
    FieldName.authorization] → d.fields.values name = fields.values name

namespace Backend

theorem defaultPort?_ne_none {scheme : Text}
    (hweb : scheme = "http".toList ∨ scheme = "https".toList) :
    Url.defaultPort? scheme ≠ none := by
  rcases hweb with rfl | rfl <;> decide

/-- The host that a request to an origin for HTTP names. -/
theorem host_of_authority {text : Text} {origin url : Url} (hparse : Url.parse text = .ok origin)
    (hweb : origin.isWeb = true) (hauthority : url.authority = origin.authority) :
    ∃ authority host, origin.authority = some authority ∧ authority.host = some host ∧
      authority.portNumber ≠ Url.defaultPort? origin.scheme ∧
      url.hostText = host.text ++ authority.portText := by
  obtain ⟨a, segments, h⟩ := Url.canonical_of_parse hparse hweb
  obtain ⟨host, hhost, -⟩ := h.canonical.host
  refine ⟨a, host, h.authority, hhost, ?_, ?_⟩
  · cases hport : a.portNumber with
    | none => exact (defaultPort?_ne_none ((Url.isWeb_iff origin).mp hweb)).symm
    | some n =>
        rw [← hport]
        exact (h.canonical.port n hport).2
  · rw [Url.hostText, hauthority, h.authority, ← Authority.hostText_eq hhost]
    rfl

/-- A request that is built and sent for an origin is framed by the gateway. -/
theorem framed_deliver {text : Text} {origin : Url} (hparse : Url.parse text = .ok origin)
    {timeout : Duration} {inbound : Inbound} {path method : Text} {caller : Option Caller}
    {r : Outgoing} (hbuild : (ofUrl origin timeout).build inbound path method caller = .ok r)
    (hweb : r.url.isWeb = true) :
    ∃ fields, Crossing.outbound inbound.fields caller = .ok fields ∧
      r.deliver.Framed origin inbound.fields fields
        (if Method.carriesBody method then inbound.body else []) := by
  obtain ⟨url, fields, htarget, houtbound, hout⟩ := build_eq_ok hbuild
  have hbody := (Outgoing.build_eq_ok hout).2.1
  have horigin : origin.isWeb = true := by
    rw [Url.isWeb, ← scheme_target hparse htarget, ← Outgoing.scheme_of_build hout]
    exact hweb
  have hauthority := authority_target hparse horigin htarget
  have hsent : r.body.getD [] = if Method.carriesBody method then inbound.body else [] := by
    rw [hbody]
    split <;> rfl
  have hdropped : ∀ name ∈ FieldName.host :: FieldName.contentLength ::
      Crossing.connectionFields, fields.values name = [] := fun name hname =>
    Crossing.values_outbound_of_framing houtbound hname
  refine ⟨fields, houtbound, ?_⟩
  exact {
    host := by
      obtain ⟨authority, host, hsome, hhost, hport, htext⟩ :=
        host_of_authority hparse horigin hauthority
      refine ⟨authority, host, hsome, hhost, hport, ?_⟩
      rw [← htext]
      exact Outgoing.values_host_deliver hout (hdropped _ (by decide))
    connection := by
      intro name hname
      have hother : ∀ name ∈ Crossing.connectionFields, name ∉ clientFields := by decide
      rw [Outgoing.values_deliver_of_other hout (hother name hname)]
      exact hdropped name (List.mem_cons_of_mem _ (List.mem_cons_of_mem _ hname))
    body := hsent
    length := by
      rw [Outgoing.values_contentLength_deliver hout (hdropped _ (by decide)), ← hbody, hsent]
    accept := by
      rw [Outgoing.values_accept_deliver hout,
        Crossing.values_outbound_of_kept houtbound (by decide)]
    credentials := by
      rw [Outgoing.values_authorization_deliver hout,
        Crossing.values_outbound_of_kept houtbound (by decide), Url.userinfo?, hauthority,
        ← Url.userinfo?]
    others := by
      have hfour : ∀ name ∈ clientFields, name ∈ [FieldName.host, FieldName.contentLength,
          FieldName.accept, FieldName.authorization] := by decide
      intro name hname
      exact Outgoing.values_deliver_of_other hout fun hmem => hname (hfour name hmem) }

/-- **The caller does not frame the request to the backend.** Whatever the
origin, the path, the method and the fields that arrived, a request that the
backend reads names the host of the origin, once, and has no field about the
connection. Its body is the whole body that was taken up, or none where the
method carries none, and its length is told exactly if there is a body. Every
other field has the values that cross, but for what the client accepts and the
credentials of the origin, each where the caller says nothing of it. -/
theorem forward_frames_request {text : Text} {origin : Url}
    (hparse : Url.parse text = .ok origin) {timeout : Duration} {network : Network}
    {inbound : Inbound} {path method : Text} {caller : Option Caller} {d : Delivery}
    (hd : d ∈ ((ofUrl origin timeout).forward network inbound path method
      caller).journal.backendRequests) :
    d.method = method ∧
    (∃ fields, Crossing.outbound inbound.fields caller = .ok fields ∧
      d.Framed origin inbound.fields fields
        (if Method.carriesBody method then inbound.body else [])) ∧
    ∀ limit request, Inbound.read limit request method = .ok inbound →
      d.body = if Method.carriesBody method then request.body.chunks.flatten else [] := by
  obtain ⟨r, hok, ⟨hweb, -, -⟩, rfl⟩ := mem_backendRequests_forward.mp hd
  obtain ⟨fields, houtbound, hframed⟩ := framed_deliver hparse hok hweb
  refine ⟨method_of_build hok, ⟨fields, houtbound, hframed⟩, ?_⟩
  intro limit request hread
  have hbody := (read_ok hread).2.2
  rw [hframed.body, hbody]
  split <;> rfl

/-- A request that names another host, two lengths and a framing reaches the
backend with the host of the origin, the credentials of the origin, and the
length of its body. -/
theorem contradictory_request_is_framed :
    let inbound : Inbound := ⟨[⟨FieldName.host, octets "elsewhere"⟩,
      ⟨FieldName.contentLength, octets "7"⟩, ⟨FieldName.contentLength, octets "8"⟩,
      ⟨FieldName.transferEncoding, octets "chunked"⟩], none, octets "12"⟩
    ∃ origin d, Url.parse "http://me:pw@127.0.0.1:8080/api".toList = .ok origin ∧
      d ∈ ((ofUrl origin ⟨1000⟩).forward (fun _ => .silent) inbound "jobs".toList Method.post
        none).journal.backendRequests ∧
      d.fields.values FieldName.host = [octets "127.0.0.1:8080"] ∧
      d.fields.values FieldName.transferEncoding = [] ∧
      d.fields.values FieldName.contentLength = [octets "2"] ∧ d.body = octets "12" ∧
      d.fields.values FieldName.authorization = [octets "Basic bWU6cHc="] := by
  intro inbound
  have hparse : (Url.parse "http://me:pw@127.0.0.1:8080/api".toList).toOption =
      some ⟨"http".toList, some ⟨"me".toList, "pw".toList, some (.ipv4 0x7F000001), some 8080⟩,
        .segments ["api".toList], none, none⟩ := by decide +kernel
  have hparse := Outcome.toOption_eq_some_iff.mp hparse
  have hsent : ∃ d, d ∈ ((ofUrl ⟨"http".toList, some ⟨"me".toList, "pw".toList,
      some (.ipv4 0x7F000001), some 8080⟩, .segments ["api".toList], none, none⟩ ⟨1000⟩).forward
        (fun _ => .silent) inbound "jobs".toList Method.post
          none).journal.backendRequests := by
    refine List.exists_mem_of_length_pos ?_
    decide +kernel
  obtain ⟨d, hd⟩ := hsent
  obtain ⟨-, ⟨fields, -, h⟩, -⟩ := forward_frames_request hparse hd
  obtain ⟨authority, host, hauthority, hhost, -, hvalues⟩ := h.host
  cases hauthority
  cases hhost
  refine ⟨_, d, hparse, hd, ?_, h.connection _ (by decide), ?_, h.body, ?_⟩
  · rw [hvalues]
    decide +kernel
  · rw [h.length]
    decide +kernel
  · rw [h.credentials]
    decide +kernel

end Backend

end JobsGateway
