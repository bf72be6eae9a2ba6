import Mqtt.Config.Load
import Mqtt.Proofs.CanonicalFrames
import Mqtt.Proofs.Runs
import Mqtt.Proofs.TopicMatching
/-! # A configuration that passes its checks gives a client that can connect

A configuration without problems has a broker URI that parses, a protocol level from 1 to 255,
a username beside any password, a client identifier when the session lasts, and a will topic
that is a valid topic name with a QoS of at most 2 (`Config.sound_of_problems`). The options it
gives resolve to settings taken straight from it (`Config.resolve_clientOptions`). From these
the dialer is chosen, the client is created and its CONNECT packet passes its checks and is
written; the codec then writes it into the send buffer exactly when the buffer holds the frame
(`configured_client_connects`).

The checks leave out three things a connection needs: a proxy URL the proxy dialers accept,
text fields of at most 65535 bytes, and a send buffer that holds the CONNECT frame. A send
buffer of 16 bytes passes the checks, and the 19 bytes of the default CONNECT do not fit it
(`sendBuffer16_refuses_connect`).
-/

namespace Mqtt

namespace Topic

theorem checkChars_length_le {s : Bytes} {c : Condition} (h : checkChars s c = .ok ()) :
    s.length ≤ maxFieldLength := by
  by_contra long
  have : s.length > 65535 := by simp only [maxFieldLength] at long; omega
  simp only [checkChars, this, decide_true, Bool.true_or, if_true] at h
  split at h <;> cases h

theorem validateName_length_le {s : Bytes} (h : validateName s = .ok ()) :
    s.length ≤ maxFieldLength := by
  cases hc : checkChars s .invalidTopicName with
  | error e => simp [validateName, hc, bind, Except.bind] at h
  | ok u => exact checkChars_length_le hc

end Topic

theorem ByteArray.length_toList_loop (bs : ByteArray) (i : Nat) (r : List UInt8) :
    (ByteArray.toList.loop bs i r).length = r.length + (bs.size - i) := by
  fun_induction ByteArray.toList.loop bs i r with
  | case1 i r h ih => rw [ih]; simp only [List.length_cons]; omega
  | case2 i r h => simp only [List.length_reverse]; omega

/-- A text is written in as many bytes as its UTF-8 encoding has. -/
theorem Bytes.length_ofString (s : String) : (Bytes.ofString s).length = s.utf8ByteSize := by
  simp [Bytes.ofString, ByteArray.toList, ByteArray.length_toList_loop]

theorem Bytes.ofString_eq_nil {s : String} : Bytes.ofString s = [] ↔ s = "" := by
  rw [← List.length_eq_zero_iff, Bytes.length_ofString, String.utf8ByteSize_eq_zero_iff]

namespace Config

/-- What a configuration without problems gives a client: a broker URI that parses, a protocol
level from 1 to 255, a username beside any password, a client identifier when the session
lasts, and a will topic that is a valid topic name with a QoS of at most 2. -/
structure Sound (c : Config) : Prop where
  uri : ∃ ep, Endpoint.parse c.broker.uri = .ok ep
  level : 1 ≤ c.broker.protocolLevel ∧ c.broker.protocolLevel ≤ 255
  username : c.broker.password ≠ "" → c.broker.username ≠ ""
  clientId : c.broker.cleanSession = false → c.broker.clientId ≠ ""
  willTopic : c.will.topic ≠ "" → Topic.validateName (Bytes.ofString c.will.topic) = .ok ()
  willQos : c.will.topic ≠ "" → 0 ≤ c.will.qos ∧ c.will.qos ≤ 2

theorem sound_of_problems {c : Config} (h : c.problems = []) : c.Sound := by
  simp only [Config.problems, List.append_eq_nil_iff, and_assoc] at h
  obtain ⟨huri, hlevel, hpass, hclient, -, -, hwill, -, -⟩ := h
  simp only [ne_eq, bne_iff_ne, beq_iff_eq, Bool.or_eq_true, decide_eq_true_eq, not_or,
    Bool.and_eq_true, Bool.not_eq_true', ite_eq_right_iff, reduceCtorEq, imp_false, not_lt,
    not_and] at hlevel hpass hclient
  refine ⟨?uri, ⟨by omega, by omega⟩, hpass, ?clientId, ?willTopic, ?willQos⟩
  case uri =>
    split at huri
    · cases huri
    · rename_i ep parsed
      exact ⟨ep, parsed⟩
  case clientId =>
    intro hc
    simpa [hc] using hclient
  case willTopic =>
    intro ht
    simp only [ht, beq_iff_eq, if_false, List.append_eq_nil_iff] at hwill
    obtain ⟨named, -⟩ := hwill
    split at named
    · cases named
    · assumption
  case willQos =>
    intro ht
    simp only [ht, beq_iff_eq, if_false, List.append_eq_nil_iff] at hwill
    obtain ⟨-, hq⟩ := hwill
    simp only [Bool.or_eq_true, decide_eq_true_eq, ite_eq_right_iff, reduceCtorEq, imp_false,
      not_or, not_lt] at hq
    omega

/-- The settings a configuration's client options resolve to, as far as connecting goes: its
identity, credentials, protocol and will, its send buffer, and its proxy, with no dialer of the
caller's and no proxy from the environment. -/
theorem resolve_clientOptions {c : Config} {fs : FileStore} {opts : List ClientOption}
    (h : c.clientOptions fs = .ok opts) :
    let o := ClientOptions.resolve opts
    o.clientId = Bytes.ofString c.broker.clientId ∧ o.cleanSession = c.broker.cleanSession ∧
    o.username = (if c.broker.username = "" then [] else Bytes.ofString c.broker.username) ∧
    o.password = (if c.broker.username = "" then [] else Bytes.ofString c.broker.password) ∧
    o.protocolName = (if (Bytes.ofString c.broker.protocol).isEmpty then Connect.defaultProtocolName
      else Bytes.ofString c.broker.protocol) ∧
    o.will = (if c.will.topic = "" then none else some ⟨Bytes.ofString c.will.topic,
      Bytes.ofString c.will.payload, lowByte c.will.qos, c.will.retain⟩) ∧
    o.willHandler = false ∧
    o.sendBufferSize = ClientOptions.positiveOr c.limits.sendBuffer defaultBufferSize ∧
    o.customDialer = false ∧ o.proxyFromEnv = false ∧ o.proxyUrl = c.broker.proxy ∧
    o.proxyUsername = [] ∧ o.proxyPassword = [] := by
  unfold Config.clientOptions at h
  simp only [bind, Except.bind] at h
  split at h
  · cases h
  · simp only [pure, Except.pure, Except.ok.injEq] at h
    subst h
    rename_i t _
    intro o
    -- each option the configuration may add or leave out
    by_cases hu : c.broker.username = "" <;> by_cases hp : c.broker.proxy = "" <;>
      by_cases hw : c.will.topic = "" <;> rcases t with _ | t <;>
      simp [o, hu, hp, hw, ClientOptions.resolve, ClientOptions.fillDefaults, ClientOptions.set]

end Config

/-- Resolved settings always name a protocol and a nonzero level. -/
theorem ClientOptions.resolve_named (opts : List ClientOption) :
    (ClientOptions.resolve opts).protocolName ≠ [] ∧ (ClientOptions.resolve opts).protocolLevel ≠ 0 := by
  simp only [ClientOptions.resolve, ClientOptions.fillDefaults]
  constructor
  · split
    · simp [Connect.defaultProtocolName, Bytes.ofString_eq_nil]
    · rename_i named
      simpa [List.isEmpty_iff] using named
  · split
    · decide
    · rename_i leveled
      simpa using leveled

theorem ClientOptions.resolve_maxSubscriptions_pos (opts : List ClientOption) :
    0 < (ClientOptions.resolve opts).maxSubscriptions :=
  ClientOptions.positiveOr_pos (by decide)

/-- A proxy URL the proxy dialers accept is a URL. -/
theorem ProxySettings.url_of_parse {raw : String} {u p : Bytes} {s : ProxySettings}
    (h : ProxySettings.parse raw u p = .ok s) : ∃ url, Url.parse raw = .ok url := by
  cases hu : Url.parse raw with
  | ok url => exact ⟨url, rfl⟩
  | error e => simp [ProxySettings.parse, hu, bind, Except.bind, throw, throwThe,
      MonadExceptOf.throw] at h

/-- A dialer is chosen for every endpoint when no dialer of the caller's is given, no proxy is
taken from the environment, and the proxy set, if any, is one the proxy dialers accept. -/
theorem DialerChoice.select_ok (ep : Endpoint) {o : ClientOptions} (env : Environment)
    (own : o.customDialer = false) (noEnv : o.proxyFromEnv = false)
    (proxied : o.proxyUrl = "" ∨
      ∃ s, ProxySettings.parse o.proxyUrl o.proxyUsername o.proxyPassword = .ok s) :
    ∃ d, DialerChoice.select ep o env = .ok d := by
  have url : resolveProxy ep o env = "" ∨ resolveProxy ep o env = o.proxyUrl := by
    unfold resolveProxy
    split
    · exact .inl rfl
    · split
      · exact .inr rfl
      · simp [noEnv]
  have accepted : resolveProxy ep o env ≠ "" →
      ∃ s, ProxySettings.parse (resolveProxy ep o env) o.proxyUsername o.proxyPassword = .ok s := by
    intro set
    rcases url with hu | hu
    · exact absurd hu set
    · rcases proxied with hp | hp
      · exact absurd (hu.trans hp) set
      · rwa [hu]
  unfold DialerChoice.select
  generalize resolveProxy ep o env = url at accepted ⊢
  by_cases hurl : url = ""
  · cases ep.transport <;> simp [own, hurl, bind, Except.bind, pure, Except.pure]
  · obtain ⟨s, hs⟩ := accepted hurl
    obtain ⟨u, hu⟩ := ProxySettings.url_of_parse hs
    cases ep.transport <;>
      simp [own, hurl, hs, hu, bind, Except.bind, pure, Except.pure, Functor.map, Except.map]

/-- A valid will has a valid topic name. -/
theorem Will.validateName_of_validate {w : Will} (h : w.validate = .ok ()) :
    Topic.validateName w.topic = .ok () := by
  cases hn : Topic.validateName w.topic with
  | ok u => rfl
  | error e => simp [Will.validate, hn, bind, Except.bind] at h

/-- A valid will has a payload that fits a binary field. -/
theorem Will.payload_length_le {w : Will} (h : w.validate = .ok ()) :
    w.payload.length ≤ maxFieldLength := by
  by_contra long
  have named := Will.validateName_of_validate h
  have : w.payload.length > 65535 := by simp only [maxFieldLength] at long; omega
  simp only [Will.validate, named, bind, Except.bind] at h
  split at h
  · cases h
  · simp [throw, throwThe, MonadExceptOf.throw] at h

/-- A client is created for every endpoint and settings whose will, if any, is valid: the
will's entry goes into an empty table with room for it. The client keeps the settings. -/
theorem Client.create_ok (ep : Endpoint) {o : ClientOptions} (recv : 0 < o.recvBufferSize)
    (hsubs : 0 < o.maxSubscriptions) (hwill : ∀ w, o.will = some w → w.validate = .ok ()) :
    ∃ c, Client.create ep o recv = .ok c ∧ c.options = o := by
  unfold Client.create
  cases hw : o.will with
  | none => simp [bind, Except.bind, pure, Except.pure]
  | some w =>
    have valid := hwill w hw
    have named : w.topic ≠ [] := Topic.validateName_ne_nil (Will.validateName_of_validate valid)
    have room : ¬ ((if o.maxSubscriptions ≤ 0 then defaultMaxSubscriptions
        else o.maxSubscriptions.toNat) ≤ 0) := by
      split
      · simp [defaultMaxSubscriptions]
      · omega
    simp [valid, SubscriptionTable.add, SubscriptionTable.create, SubscriptionTable.contains,
      List.isEmpty_iff, named, room, bind, Except.bind, pure, Except.pure]

/-- A field of at most 65535 bytes is written behind its length. -/
theorem Field.binary_short {b : Bytes} (h : b.length ≤ maxFieldLength) :
    Field.binary b = .ok b.framed :=
  Field.binary_eq_ok.2 ⟨h, rfl⟩

/-- The body of a CONNECT packet is written when each field it writes has at most 65535 bytes,
and then fits a remaining length. -/
theorem Connect.body_short {p : Connect}
    (name : p.protocolName.length ≤ maxFieldLength) (client : p.clientId.length ≤ maxFieldLength)
    (will : p.willFlag = true →
      p.willTopic.length ≤ maxFieldLength ∧ p.willMessage.length ≤ maxFieldLength)
    (user : p.username.length ≤ maxFieldLength) (pass : p.password.length ≤ maxFieldLength) :
    ∃ b, p.body = .ok b ∧ b.length ≤ maxRemainingLength := by
  have named : (if p.protocolName.isEmpty then Connect.defaultProtocolName
      else p.protocolName).length ≤ maxFieldLength := by
    split
    · simp only [Connect.defaultProtocolName, Bytes.length_ofString, maxFieldLength]
      decide
    · exact name
  have topic : p.willFlag = true → Field.binary p.willTopic = .ok p.willTopic.framed :=
    fun h => Field.binary_short (will h).1
  have message : p.willFlag = true → Field.binary p.willMessage = .ok p.willMessage.framed :=
    fun h => Field.binary_short (will h).2
  unfold Connect.body
  simp only [Field.text]
  rw [Field.binary_short named, Field.binary_short client]
  -- the will, the username and the password are each written only when set
  cases hw : p.willFlag <;> cases p.username.isEmpty <;> cases p.password.isEmpty <;>
    simp [hw, topic, message, Field.binary_short user, Field.binary_short pass, bind,
      Except.bind, pure, Except.pure, Field.u16, Bytes.ofUInt16] <;>
    simp only [maxFieldLength, maxRemainingLength, List.isEmpty_iff, hw, true_implies] at * <;> omega

/-- The CONNECT packet of settings passes its checks when a lasting session has a client
identifier, a password comes with a username and a will has a QoS of at most 2. -/
theorem ClientOptions.connectPacket_validate {o : ClientOptions}
    (session : o.cleanSession = false → o.clientId ≠ [])
    (credentials : o.password ≠ [] → o.username ≠ [])
    (will : ∀ w, o.will = some w → w.qos ≤ 2) :
    o.connectPacket.validate = .ok () := by
  have identified : ¬ (o.cleanSession = false ∧ o.clientId = []) := fun ⟨h, e⟩ => session h e
  have named : ¬ (o.password ≠ [] ∧ o.username = []) := fun ⟨h, e⟩ => credentials h e
  unfold ClientOptions.connectPacket
  cases hw : o.will with
  | none => simp [Connect.validate, firstFailure, identified, named]
  | some w =>
    have qos : ¬ 2 < w.qos.toNat := by
      have := will w hw
      rw [UInt8.le_iff_toNat_le] at this
      simpa using this
    simp only [Will.applyTo]
    split
    · simp [Connect.validate, firstFailure, identified, named]
    · simp [Connect.validate, firstFailure, UInt8.lt_iff_toNat_lt, *]

/-- The CONNECT packet carries the settings' protocol, client identifier and credentials, and a
will only from the settings' will. -/
theorem ClientOptions.connectPacket_fields (o : ClientOptions) :
    o.connectPacket.protocolName = o.protocolName ∧
      o.connectPacket.protocolLevel = o.protocolLevel ∧ o.connectPacket.clientId = o.clientId ∧
      o.connectPacket.username = o.username ∧ o.connectPacket.password = o.password ∧
      (o.connectPacket.willFlag = true → ∃ w, o.will = some w ∧
        o.connectPacket.willTopic = w.topic ∧ o.connectPacket.willMessage = w.payload) := by
  unfold ClientOptions.connectPacket
  cases o.will with
  | none => simp
  | some w =>
    simp only [Will.applyTo]
    split <;> simp

/-- A codec that writes a packet as it is puts the packet's frame into a buffer exactly when
the buffer holds it. -/
theorem Codec.encode_eq_ok_iff_fits {c : Codec} {q : Packet} {bytes : Bytes} {cap : Nat}
    (hprep : c.prepare (some q) = .ok q) (he : q.encode = .ok bytes) :
    c.encode cap (some q) = .ok bytes ↔ bytes.length ≤ cap := by
  refine ⟨fun written => ?_, Codec.encode_of_emission hprep he⟩
  by_contra long
  have : bytes.length > cap := by omega
  simp [Codec.encode, hprep, he, Emission.ok, this, bind, Except.bind] at written

/-- The low byte of a QoS from 0 to 2 is that QoS. -/
theorem Config.lowByte_le_two {q : Int} (h0 : 0 ≤ q) (h2 : q ≤ 2) : Config.lowByte q ≤ 2 := by
  obtain rfl | rfl | rfl : q = 0 ∨ q = 1 ∨ q = 2 := by omega
  all_goals decide

/-- The text fields a configuration puts into CONNECT each fit a field of 65535 bytes: the
client identifier, the username and password, the protocol name and the will's payload. -/
def Config.FieldsFit (c : Config) : Prop :=
  ∀ s ∈ [c.broker.clientId, c.broker.username, c.broker.password, c.broker.protocol,
    c.will.payload], (Bytes.ofString s).length ≤ maxFieldLength

section Resolved

variable {c : Config} {fs : FileStore} {opts : List ClientOption}

/-- The will of a configuration that passes its checks, once its payload fits a field, passes the
will's checks, with a topic that fits a field and a QoS of at most 2. -/
theorem Config.resolve_will_valid (sound : c.Sound) (loaded : c.clientOptions fs = .ok opts)
    (fits : (Bytes.ofString c.will.payload).length ≤ maxFieldLength) :
    ∀ w, (ClientOptions.resolve opts).will = some w →
      w.validate = .ok () ∧ w.topic.length ≤ maxFieldLength ∧ w.qos ≤ 2 := by
  obtain ⟨-, -, -, -, -, hwill, -⟩ := Config.resolve_clientOptions loaded
  intro w hw
  rw [hwill] at hw
  split at hw
  · cases hw
  · rename_i set
    obtain rfl := Option.some.inj hw
    have named := sound.willTopic set
    obtain ⟨q0, q2⟩ := sound.willQos set
    have qos := Config.lowByte_le_two q0 q2
    refine ⟨?_, Topic.validateName_length_le named, qos⟩
    have : ¬ (Bytes.ofString c.will.payload).length > 65535 := by
      simp only [maxFieldLength] at fits; omega
    simp [Will.validate, named, this, bind, Except.bind, pure, Except.pure, UInt8.lt_iff_toNat_lt,
      UInt8.le_iff_toNat_le] at qos ⊢
    omega

/-- The CONNECT packet of a configuration that passes its checks passes the packet's checks. -/
theorem Config.resolve_connectPacket_validate (sound : c.Sound)
    (loaded : c.clientOptions fs = .ok opts)
    (fits : (Bytes.ofString c.will.payload).length ≤ maxFieldLength) :
    (ClientOptions.resolve opts).connectPacket.validate = .ok () := by
  obtain ⟨hid, hclean, huser, hpass, -⟩ := Config.resolve_clientOptions loaded
  refine ClientOptions.connectPacket_validate ?_ ?_
    (fun w hw => (Config.resolve_will_valid sound loaded fits w hw).2.2)
  · rw [hclean, hid, Ne, Bytes.ofString_eq_nil]
    exact sound.clientId
  · rw [hpass, huser]
    split
    · intro h
      exact absurd rfl h
    · rename_i named
      intro _
      rw [Ne, Bytes.ofString_eq_nil]
      exact named

/-- The CONNECT body of a configuration that passes its checks and whose text fields fit is
written, within the largest remaining length. -/
theorem Config.resolve_connect_body_short (sound : c.Sound) (loaded : c.clientOptions fs = .ok opts)
    (fit : c.FieldsFit) :
    ∃ b, (ClientOptions.resolve opts).connectPacket.body = .ok b ∧ b.length ≤ maxRemainingLength := by
  obtain ⟨hid, -, huser, hpass, hname, -⟩ := Config.resolve_clientOptions loaded
  simp only [Config.FieldsFit, List.mem_cons, List.not_mem_nil, or_false, forall_eq_or_imp,
    forall_eq] at fit
  obtain ⟨fitId, fitUser, fitPass, fitProtocol, fitPayload⟩ := fit
  obtain ⟨hname', -, hid', huser', hpass', hwill'⟩ :=
    ClientOptions.connectPacket_fields (ClientOptions.resolve opts)
  refine Connect.body_short ?_ ?_ ?_ ?_ ?_
  · rw [hname', hname]
    split
    · simp only [Connect.defaultProtocolName, Bytes.length_ofString, maxFieldLength]
      decide
    · exact fitProtocol
  · rw [hid', hid]
    exact fitId
  · intro flag
    obtain ⟨w, hw, ht, hm⟩ := hwill' flag
    obtain ⟨valid, topic, -⟩ := Config.resolve_will_valid sound loaded fitPayload w hw
    rw [ht, hm]
    exact ⟨topic, Will.payload_length_le valid⟩
  · rw [huser', huser]
    split
    · simp
    · exact fitUser
  · rw [hpass', hpass]
    split
    · simp
    · exact fitPass

end Resolved

/-- A configuration that passes its checks, whose client options load, whose proxy, if any, is
one the proxy dialers accept and whose text fields fit CONNECT gives a client whatever the
environment: its CONNECT packet passes its checks and is written as a frame, and the client's
codec writes that frame into the send buffer exactly when the buffer holds it. -/
theorem configured_client_connects (c : Config) (fs : FileStore) (env : Environment)
    (opts : List ClientOption) (valid : c.problems = []) (loaded : c.clientOptions fs = .ok opts)
    (proxied : c.broker.proxy = "" ∨ ∃ s, ProxySettings.parse c.broker.proxy [] [] = .ok s)
    (fit : c.FieldsFit) :
    ∃ client dialer bytes, Client.build c.broker.uri opts env = .ok (client, dialer) ∧
      client.options.connectPacket.validate = .ok () ∧
      (Packet.connect client.options.connectPacket).encode = .ok bytes ∧
      client.sendCap = (ClientOptions.positiveOr c.limits.sendBuffer defaultBufferSize).toNat ∧
      (client.codec.encode client.sendCap (some (.connect client.options.connectPacket)) =
          .ok bytes ↔ bytes.length ≤ client.sendCap) := by
  have sound := Config.sound_of_problems valid
  obtain ⟨-, -, -, -, -, -, -, hsend, hdial, henv, hproxy, hpu, hpp⟩ :=
    Config.resolve_clientOptions loaded
  obtain ⟨ep, hep⟩ := sound.uri
  have fitPayload : (Bytes.ofString c.will.payload).length ≤ maxFieldLength := fit _ (by simp)
  have willValid := Config.resolve_will_valid sound loaded fitPayload
  obtain ⟨d, hd⟩ := DialerChoice.select_ok ep env hdial henv (by
    rw [hproxy, hpu, hpp]
    exact proxied)
  obtain ⟨client, hcl, hopt⟩ := Client.create_ok ep (ClientOptions.resolve_recvBufferSize_pos opts)
    (ClientOptions.resolve_maxSubscriptions_pos opts) (fun w hw => (willValid w hw).1)
  have built : Client.build c.broker.uri opts env = .ok (client, d) := by
    simp [Client.build, hep, hd, hcl, bind, Except.bind, pure, Except.pure]
  -- the CONNECT packet passes its checks, and its body is written within the largest length
  have hv : client.options.connectPacket.validate = .ok () := by
    rw [hopt]
    exact Config.resolve_connectPacket_validate sound loaded fitPayload
  obtain ⟨b, hb, hblen⟩ :
      ∃ b, client.options.connectPacket.body = .ok b ∧ b.length ≤ maxRemainingLength := by
    rw [hopt]
    exact Config.resolve_connect_body_short sound loaded fit
  have he := Packet.encode_bodied_frame (q := .connect client.options.connectPacket)
    (by simp [PacketKind.bodied, Packet.kind]) hv hb hblen
  obtain ⟨hname', hlevel', -⟩ := ClientOptions.connectPacket_fields client.options
  have prepared : client.codec.prepare (some (.connect client.options.connectPacket)) =
      .ok (.connect client.options.connectPacket) := by
    refine Codec.prepare_self (fun _ => by simp [Packet.entryCount]; omega) ?_
    intro x hx
    obtain rfl := Packet.connect.inj hx
    rw [hname', hlevel', hopt]
    exact ClientOptions.resolve_named opts
  refine ⟨client, d, _, built, hv, he, by simp [Client.sendCap, hopt, hsend], ?_⟩
  exact Codec.encode_eq_ok_iff_fits prepared he

/-- The default configuration: a client for the default broker whose CONNECT frame fits the
default send buffer. -/
theorem configured_client_connects_defaults :
    let c : Config := {}
    let opts := (c.clientOptions {}).toOption.getD []
    c.problems = [] ∧ c.clientOptions {} = .ok opts ∧
      (c.broker.proxy = "" ∨ ∃ s, ProxySettings.parse c.broker.proxy [] [] = .ok s) ∧
      c.FieldsFit ∧
      ∃ client dialer bytes, Client.build c.broker.uri opts [] = .ok (client, dialer) ∧
        client.options.connectPacket.validate = .ok () ∧
        (Packet.connect client.options.connectPacket).encode = .ok bytes ∧
        client.sendCap = (ClientOptions.positiveOr c.limits.sendBuffer defaultBufferSize).toNat ∧
        (client.codec.encode client.sendCap (some (.connect client.options.connectPacket)) =
            .ok bytes ↔ bytes.length ≤ client.sendCap) := by
  have fits : ({} : Config).FieldsFit := by
    simp only [Config.FieldsFit, Bytes.length_ofString, maxFieldLength]
    decide
  exact ⟨by decide +kernel, rfl, .inl rfl, fits,
    configured_client_connects {} {} [] _ (by decide +kernel) rfl (.inl rfl) fits⟩

/-- A send buffer of 16 bytes, as the file `limits: send_buffer: 16` sets with every other
setting at its default, passes the checks and gives a client whose CONNECT packet passes its
checks; but the codec refuses to write the packet's 19 bytes into the buffer, so every
connection attempt fails before a byte is sent. -/
theorem sendBuffer16_refuses_connect :
    let c : Config := { limits := { sendBuffer := 16 } }
    c.problems = [] ∧
      ((c.clientOptions {}).toOption.bind fun opts =>
        (Client.build c.broker.uri opts []).toOption.map fun built =>
          (built.1.options.connectPacket.validate.toOption,
            match built.1.codec.encode built.1.sendCap
                (some (.connect built.1.options.connectPacket)) with
            | .ok _ => none
            | .error f => some f)) =
        some (some (), some (.detail .bufferTooShort "CONNECT needs 19 bytes, have 16")) :=
  ⟨by decide +kernel, by decide +kernel⟩

end Mqtt
