import Courier.Proofs.TalkRun
import Courier.Proofs.UuidTexts

/-!
# What a handshake comes to

A stream brings bytes, each at its time, and may end. Which of them came together is
nothing that the handshake can tell: the wait for twenty bytes is decided by when these
bytes come and when the stream ends, and everything after that by the twenty bytes. They are
read as a number of four bytes and sixteen bytes more. The number comes first, so that a
frame of another length is refused for its length, whatever UUID it has.

The five ways in which a handshake is refused and the one in which it is not are told apart
by the text, the times and the bytes alone. They are all there is, and no two of them meet, so
that each is exactly what its condition says. A socket whose handshake is refused is given up
again, and says why.
-/

namespace Courier

namespace Stream

/-- The bytes that chunks bring, each with the time at which it comes. -/
def arrivalsFrom (now : Nat) : List (Nat × List UInt8) → List (Nat × UInt8)
  | [] => []
  | (delay, bs) :: rest => bs.map ((now + delay, ·)) ++ arrivalsFrom (now + delay) rest

/-- The bytes that come, each with the time at which it comes. -/
def arrivals (s : Stream) : List (Nat × UInt8) := arrivalsFrom 0 s.chunks

/-- The bytes that come, whenever they do. -/
def bytes (s : Stream) : List UInt8 := s.arrivals.map Prod.snd

/-- When the last of the chunks has come. -/
def span : List (Nat × List UInt8) → Nat
  | [] => 0
  | (delay, _) :: rest => delay + span rest

/-- The time at which the other side closes, if it does. -/
def closesAt? (s : Stream) : Option Nat := s.closes.map (span s.chunks + ·)

/-- The first of these bytes are there, and come before the limit. -/
def InTime (as : List (Nat × UInt8)) (wanted limit : Nat) : Prop :=
  wanted ≤ as.length ∧ ∀ a ∈ as.take wanted, a.1 < limit

instance (as : List (Nat × UInt8)) (wanted limit : Nat) : Decidable (InTime as wanted limit) :=
  inferInstanceAs (Decidable (_ ∧ _))

/-- Enough bytes come before the limit. -/
def Brings (s : Stream) (wanted limit : Nat) : Prop := InTime s.arrivals wanted limit

/-- The stream ends before the limit, and before enough bytes have come. -/
def EndsShort (s : Stream) (wanted limit : Nat) : Prop :=
  s.arrivals.length < wanted ∧ ∃ t ∈ s.closesAt?, t < limit

instance (s : Stream) (wanted limit : Nat) : Decidable (s.Brings wanted limit) :=
  inferInstanceAs (Decidable (InTime _ _ _))

instance (s : Stream) (wanted limit : Nat) : Decidable (s.EndsShort wanted limit) :=
  inferInstanceAs (Decidable (_ ∧ _))

variable {s s' : Stream} {wanted limit now delay : Nat} {closes : Option Nat}
  {bs got : List UInt8} {chunks rest : List (Nat × List UInt8)}

/-! ## Waiting -/

theorem arrivalsFrom_cons : arrivalsFrom now ((delay, bs) :: rest) =
    bs.map ((now + delay, ·)) ++ arrivalsFrom (now + delay) rest := rfl

theorem le_of_mem_arrivalsFrom {a : Nat × UInt8} (h : a ∈ arrivalsFrom now chunks) :
    now ≤ a.1 := by
  induction chunks generalizing now with
  | nil => cases h
  | cons chunk rest ih =>
      obtain ⟨delay, bs⟩ := chunk
      rcases List.mem_append.1 h with h | h
      · obtain ⟨b, -, rfl⟩ := List.mem_map.1 h
        exact Nat.le_add_right now delay
      · exact Nat.le_trans (Nat.le_add_right now delay) (ih h)

theorem inTime_zero (as : List (Nat × UInt8)) (limit : Nat) : InTime as 0 limit :=
  ⟨Nat.zero_le _, fun a ha => by simp at ha⟩

/-- A chunk that is in time brings some of the bytes, and the rest has to bring the others. -/
theorem inTime_cons (h : now + delay < limit) :
    InTime (arrivalsFrom now ((delay, bs) :: rest)) wanted limit ↔
      InTime (arrivalsFrom (now + delay) rest) (wanted - bs.length) limit := by
  unfold InTime
  rw [arrivalsFrom_cons, List.length_append, List.length_map, List.take_append, List.length_map]
  constructor
  · rintro ⟨hlen, hall⟩
    exact ⟨by omega, fun a ha => hall a (List.mem_append_right _ ha)⟩
  · rintro ⟨hlen, hall⟩
    refine ⟨by omega, fun a ha => ?_⟩
    rcases List.mem_append.1 ha with ha | ha
    · obtain ⟨b, -, rfl⟩ := List.mem_map.1 (List.mem_of_mem_take ha)
      exact h
    · exact hall a ha

/-- Nothing that comes with a late chunk or after it is in time. -/
theorem not_inTime_cons (h : ¬ now + delay < limit) (hw : 0 < wanted) :
    ¬ InTime (arrivalsFrom now ((delay, bs) :: rest)) wanted limit := by
  rintro ⟨hlen, hall⟩
  obtain ⟨a, as, has⟩ : ∃ a as, arrivalsFrom now ((delay, bs) :: rest) = a :: as :=
    List.exists_cons_of_length_pos (by omega)
  have hlate : now + delay ≤ a.1 := by
    have ha : a ∈ arrivalsFrom now ((delay, bs) :: rest) := has ▸ List.mem_cons_self
    rcases List.mem_append.1 ha with ha | ha
    · obtain ⟨b, -, rfl⟩ := List.mem_map.1 ha
      exact Nat.le_refl _
    · exact le_of_mem_arrivalsFrom ha
  have hfirst : a ∈ (arrivalsFrom now ((delay, bs) :: rest)).take wanted := by
    obtain ⟨w, rfl⟩ : ∃ w, wanted = w + 1 := ⟨wanted - 1, by omega⟩
    rw [has, List.take_succ_cons]
    exact List.mem_cons_self
  exact h (Nat.lt_of_le_of_lt hlate (hall a hfirst))

/-- How the wait ends when some bytes have come already and these are still to come. -/
def awaited (as : List (Nat × UInt8)) (got : List UInt8) (ends : Option Nat) (wanted limit : Nat) :
    Received :=
  if InTime as (wanted - got.length) limit then .bytes ((got ++ as.map Prod.snd).take wanted)
  else if as.length < wanted - got.length ∧ ∃ t ∈ ends, t < limit then .ended
  else .timedOut

theorem awaited_of_enough (h : wanted ≤ got.length) (as : List (Nat × UInt8)) (ends : Option Nat)
    (limit : Nat) : awaited as got ends wanted limit = .bytes (got.take wanted) := by
  rw [awaited, Nat.sub_eq_zero_of_le h, if_pos (inTime_zero as limit),
    List.take_append_of_le_length h]

theorem awaited_nil (h : ¬ wanted ≤ got.length) (ends : Option Nat) (limit : Nat) :
    awaited [] got ends wanted limit =
      if ∃ t ∈ ends, t < limit then .ended else .timedOut := by
  have hshort : ([] : List (Nat × UInt8)).length < wanted - got.length := by
    rw [List.length_nil]
    omega
  rw [awaited, if_neg fun hin => absurd hin.1 (Nat.not_le.2 hshort)]
  simp only [hshort, true_and]

/-- What has come counts against what is wanted. -/
theorem awaited_cons (h : now + delay < limit) (ends : Option Nat) :
    awaited (arrivalsFrom now ((delay, bs) :: rest)) got ends wanted limit =
      awaited (arrivalsFrom (now + delay) rest) (got ++ bs) ends wanted limit := by
  have hneed : wanted - (got ++ bs).length = wanted - got.length - bs.length := by
    rw [List.length_append]
    omega
  have hshort : (arrivalsFrom now ((delay, bs) :: rest)).length < wanted - got.length ↔
      (arrivalsFrom (now + delay) rest).length < wanted - got.length - bs.length := by
    rw [arrivalsFrom_cons, List.length_append, List.length_map]
    omega
  have hbytes : got ++ (arrivalsFrom now ((delay, bs) :: rest)).map Prod.snd =
      got ++ bs ++ (arrivalsFrom (now + delay) rest).map Prod.snd := by
    simp [arrivalsFrom_cons, Function.comp_def]
  rw [awaited, awaited, hbytes]
  simp only [hshort, hneed, inTime_cons h]

theorem awaited_late (h : ¬ now + delay < limit) (hgot : ¬ wanted ≤ got.length)
    {ends : Option Nat} (hends : ∀ t ∈ ends, now + delay ≤ t) :
    awaited (arrivalsFrom now ((delay, bs) :: rest)) got ends wanted limit = .timedOut := by
  have hclose : ¬ ∃ t ∈ ends, t < limit := by
    rintro ⟨t, ht, hlt⟩
    exact h (Nat.lt_of_le_of_lt (hends t ht) hlt)
  rw [awaited, if_neg (not_inTime_cons h (by omega)), if_neg fun h => hclose h.2]

theorem receive_eq (wanted limit : Nat) (closes : Option Nat) (now : Nat) (got : List UInt8)
    (chunks : List (Nat × List UInt8)) : receive wanted limit closes now got chunks =
      awaited (arrivalsFrom now chunks) got (closes.map (now + span chunks + ·)) wanted limit := by
  induction chunks generalizing now got with
  | nil =>
      unfold receive
      split
      · next hgot => rw [awaited_of_enough hgot]
      · next hgot =>
          rw [arrivalsFrom, awaited_nil hgot]
          cases closes <;> simp [span]
  | cons chunk rest ih =>
      obtain ⟨delay, bs⟩ := chunk
      have hspan : now + span ((delay, bs) :: rest) = now + delay + span rest := by
        rw [span, Nat.add_assoc]
      unfold receive
      split
      · next hgot => rw [awaited_of_enough hgot]
      · next hgot =>
          split
          · next hin => rw [ih, awaited_cons hin, hspan]
          · next hlate =>
              -- The stream ends after this chunk, which is late itself.
              rw [awaited_late hlate hgot]
              intro t ht
              obtain ⟨c, -, rfl⟩ := Option.map_eq_some_iff.1 ht
              omega

/-- When bytes come and when the stream ends is all that decides how the wait ends. -/
theorem first_eq (s : Stream) (wanted limit : Nat) : s.first wanted limit =
    if s.Brings wanted limit then .bytes (s.bytes.take wanted)
    else if s.EndsShort wanted limit then .ended
    else .timedOut := by
  have hcloses : s.closes.map (0 + span s.chunks + ·) = s.closesAt? := by
    rw [Nat.zero_add, closesAt?]
  rw [first, receive_eq, hcloses]
  rfl

theorem first_cases (s : Stream) (wanted limit : Nat) :
    (s.Brings wanted limit ∧ s.first wanted limit = .bytes (s.bytes.take wanted)) ∨
      (s.EndsShort wanted limit ∧ s.first wanted limit = .ended) ∨
      (¬ s.Brings wanted limit ∧ ¬ s.EndsShort wanted limit ∧
        s.first wanted limit = .timedOut) := by
  rw [first_eq]
  by_cases hbrings : s.Brings wanted limit
  · exact .inl ⟨hbrings, if_pos hbrings⟩
  · rw [if_neg hbrings]
    by_cases hends : s.EndsShort wanted limit
    · exact .inr (.inl ⟨hends, if_pos hends⟩)
    · exact .inr (.inr ⟨hbrings, hends, if_neg hends⟩)

theorem EndsShort.not_brings (h : s.EndsShort wanted limit) : ¬ s.Brings wanted limit := by
  intro hbrings
  exact absurd h.1 (Nat.not_lt.2 hbrings.1)

/-- What comes together with the bytes that are wanted, or after them, makes no difference. -/
theorem first_congr (has : s'.arrivals.take wanted = s.arrivals.take wanted)
    (hclose : s.arrivals.length < wanted → s'.closesAt? = s.closesAt?) :
    s'.first wanted limit = s.first wanted limit := by
  have hlen : min wanted s'.arrivals.length = min wanted s.arrivals.length := by
    rw [← List.length_take, has, List.length_take]
  have hbrings : s'.Brings wanted limit ↔ s.Brings wanted limit := by
    unfold Brings InTime
    rw [has]
    exact and_congr_left fun _ => by omega
  have hends : s'.EndsShort wanted limit ↔ s.EndsShort wanted limit := by
    unfold EndsShort
    by_cases h : s.arrivals.length < wanted
    · rw [hclose h]
      exact and_congr_left fun _ => by omega
    · exact ⟨fun h' => absurd h'.1 (by omega), fun h' => absurd h'.1 h⟩
  have hbytes : s'.bytes.take wanted = s.bytes.take wanted := by
    unfold bytes
    rw [← List.map_take, has, List.map_take]
  rw [first_eq, first_eq, hbytes]
  simp only [hbrings, hends]

theorem length_bytes_take (h : s.Brings wanted limit) : (s.bytes.take wanted).length = wanted := by
  rw [List.length_take, bytes, List.length_map]
  exact Nat.min_eq_left h.1

end Stream

namespace Handshake

variable {text : String} {limit : Nat} {s : Stream} {id : Uuid} {bs : List UInt8} {n : Nat}

/-! ## Frames -/

theorem number_four (a b c d : UInt8) : number [a, b, c, d] =
    a.toNat * 0x1000000 + b.toNat * 0x10000 + c.toNat * 0x100 + d.toNat := by
  simp [number]
  omega

/-- Four bytes are the bytes of their number, and of no other. -/
theorem number_eq_iff (h : bs.length = 4) :
    number bs = n ↔ n < 0x100000000 ∧ bs = numberBytes n := by
  obtain ⟨a, b, c, d, rfl⟩ : ∃ a b c d, bs = [a, b, c, d] := by
    match bs, h with
    | [a, b, c, d], _ => exact ⟨a, b, c, d, rfl⟩
  have ha := a.toNat_lt
  have hb := b.toNat_lt
  have hc := c.toNat_lt
  have hd := d.toNat_lt
  rw [number_four]
  constructor
  · rintro rfl
    refine ⟨by omega, ?_⟩
    simp only [numberBytes, List.cons.injEq, and_true, ← UInt8.toNat_inj, UInt8.toNat_ofNat']
    omega
  · rintro ⟨hn, hbytes⟩
    simp only [numberBytes, List.cons.injEq, and_true, ← UInt8.toNat_inj,
      UInt8.toNat_ofNat'] at hbytes
    omega

theorem numberBytes_injective {m n : Nat} (hm : m < 0x100000000) (hn : n < 0x100000000)
    (h : numberBytes m = numberBytes n) : m = n := by
  have hlen : (numberBytes m).length = 4 := rfl
  rw [← (number_eq_iff hlen).2 ⟨hm, rfl⟩]
  exact (number_eq_iff hlen).2 ⟨hn, h⟩

theorem checkFrame_eq (hbs : bs.length = frameLength) : checkFrame id bs =
    if bs.take 4 = numberBytes declaredLength then
      if bs.drop 4 = id.bytes then .ok () else .error .otherSession
    else .error (.badLength (number (bs.take 4))) := by
  have hfour : (bs.take 4).length = 4 := by simp [hbs, frameLength]
  have hnumber : number (bs.take 4) = declaredLength ↔
      bs.take 4 = numberBytes declaredLength := by
    rw [number_eq_iff hfour]
    exact and_iff_right (by decide)
  unfold checkFrame
  by_cases h : bs.take 4 = numberBytes declaredLength
  · rw [if_neg (not_not_intro (hnumber.2 h)), if_pos h]
  · rw [if_pos fun h' => h (hnumber.1 h'), if_neg h]

theorem eq_frame_iff (bs : List UInt8) (id : Uuid) :
    bs = frame id ↔ bs.take 4 = numberBytes declaredLength ∧ bs.drop 4 = id.bytes := by
  constructor
  · rintro rfl
    exact ⟨rfl, rfl⟩
  · rintro ⟨htake, hdrop⟩
    rw [frame, ← htake, ← hdrop, List.take_append_drop]

theorem take_four (bs : List UInt8) : (bs.take frameLength).take 4 = bs.take 4 := by
  rw [List.take_take]
  rfl

theorem take_four_of_frame (h : bs.take frameLength = frame id) :
    bs.take 4 = numberBytes declaredLength := by
  rw [← take_four, h]
  rfl

theorem frame_injective {id id' : Uuid} (h : frame id = frame id') : id = id' := by
  have hbytes : id.bytes = id'.bytes := List.append_cancel_left h
  cases id
  cases id'
  cases hbytes
  rfl

/-- Sixteen bytes are those of a UUID, whichever they are. -/
theorem exists_frame (hbs : bs.length = frameLength)
    (h : bs.take 4 = numberBytes declaredLength) : ∃ id, bs = frame id := by
  have hlen : (bs.drop 4).length = 16 := by simp [hbs, frameLength]
  exact ⟨⟨bs.drop 4, hlen⟩, (eq_frame_iff bs _).2 ⟨h, rfl⟩⟩

/-! ## Outcomes -/

theorem expect_of_denotes (h : Uuid.Denotes text id) : expect text = .ok id := by
  unfold expect Uuid.parse
  rw [(Uuid.parse?_eq_some_iff text id).2 h]

theorem expect_of_not_denotes (h : ∀ id, ¬ Uuid.Denotes text id) :
    expect text = .error (.badUuid text (Uuid.flaw text)) := by
  unfold expect Uuid.parse
  cases hp : Uuid.parse? text with
  | none => rfl
  | some id => exact absurd ((Uuid.parse?_eq_some_iff text id).1 hp) (h id)

theorem validate_of_denotes (h : Uuid.Denotes text id) (limit : Nat) (s : Stream) :
    validate text limit s = check id limit s := by
  rw [validate, expect_of_denotes h]

/-- What a handshake comes to, one case after the other. -/
inductive Outcome (text : String) (limit : Nat) (s : Stream) : Except Refusal Unit → Prop where
  | badUuid : (∀ id, ¬ Uuid.Denotes text id) →
      Outcome text limit s (.error (.badUuid text (Uuid.flaw text)))
  | timedOut {id : Uuid} : Uuid.Denotes text id → ¬ s.Brings frameLength limit →
      ¬ s.EndsShort frameLength limit → Outcome text limit s (.error (.timedOut limit))
  | ended {id : Uuid} : Uuid.Denotes text id → s.EndsShort frameLength limit →
      Outcome text limit s (.error .ended)
  | badLength {id : Uuid} {n : Nat} : Uuid.Denotes text id → s.Brings frameLength limit →
      n < 0x100000000 → n ≠ declaredLength → s.bytes.take 4 = numberBytes n →
      Outcome text limit s (.error (.badLength n))
  | otherSession {id other : Uuid} : Uuid.Denotes text id →
      s.Brings frameLength limit → s.bytes.take frameLength = frame other → other ≠ id →
      Outcome text limit s (.error .otherSession)
  | accepted {id : Uuid} : Uuid.Denotes text id → s.Brings frameLength limit →
      s.bytes.take frameLength = frame id → Outcome text limit s (.ok ())

theorem outcome_validate (text : String) (limit : Nat) (s : Stream) :
    Outcome text limit s (validate text limit s) := by
  by_cases htext : ∃ id, Uuid.Denotes text id
  · obtain ⟨id, hid⟩ := htext
    rw [validate_of_denotes hid, check]
    rcases s.first_cases frameLength limit with
      ⟨hbrings, hfirst⟩ | ⟨hends, hfirst⟩ | ⟨hbrings, hends, hfirst⟩
    · have hlen := Stream.length_bytes_take hbrings
      rw [hfirst]
      show Outcome text limit s (checkFrame id (s.bytes.take frameLength))
      rw [checkFrame_eq hlen, take_four]
      by_cases hfour : s.bytes.take 4 = numberBytes declaredLength
      · rw [if_pos hfour]
        -- With the right length in front, the bytes are a frame, be it one of another session.
        obtain ⟨other, hother⟩ := exists_frame hlen ((take_four _).trans hfour)
        rw [hother]
        split
        · next hbytes =>
            have heq : frame other = frame id := (eq_frame_iff _ id).2 ⟨rfl, hbytes⟩
            exact .accepted hid hbrings (hother.trans heq)
        · next hbytes =>
            refine .otherSession hid hbrings hother fun heq => hbytes ?_
            rw [heq]
            rfl
      · rw [if_neg hfour]
        have hlen4 : (s.bytes.take 4).length = 4 := by
          rw [← take_four, List.length_take, hlen]
          rfl
        obtain ⟨hlt, hnumber⟩ := (number_eq_iff hlen4).1 rfl
        refine .badLength hid hbrings hlt (fun h => hfour ?_) hnumber
        rw [← h]
        exact hnumber
    · rw [hfirst]
      exact .ended hid hends
    · rw [hfirst]
      exact .timedOut hid hbrings hends
  · have hnone : ∀ id, ¬ Uuid.Denotes text id := fun id h => htext ⟨id, h⟩
    rw [validate, expect_of_not_denotes hnone]
    exact .badUuid hnone

/-- No two of the cases meet. -/
theorem Outcome.unique {x y : Except Refusal Unit} (hx : Outcome text limit s x)
    (hy : Outcome text limit s y) : x = y := by
  have hid : ∀ {a b}, Uuid.Denotes text a → Uuid.Denotes text b → a = b := Uuid.Denotes.unique
  have hends : s.EndsShort frameLength limit → ¬ s.Brings frameLength limit :=
    Stream.EndsShort.not_brings
  have hdeclared : ∀ {a : Uuid}, s.bytes.take frameLength = frame a →
      s.bytes.take 4 = numberBytes declaredLength := take_four_of_frame
  have hlt : declaredLength < 0x100000000 := by decide
  -- Either the outcomes are the same, or two of their conditions exclude each other by these facts.
  cases hx <;> cases hy <;> grind [frame_injective, numberBytes_injective]

end Handshake

/-! ## Sockets -/

namespace Talk

variable {ω : Type} {n : Network ω} {l : Line ω} {net : ω} {host : String} {port : Nat}

theorem perform_open : (modifyGet fun l : Line ω => ((n.connect host port l.net).1,
      { l with net := (n.connect host port l.net).2 }) : Talk ω _).perform n l =
    (.ok (n.connect host port l.net).1, { l with net := (n.connect host port l.net).2 }) :=
  rfl

theorem perform_connect_ok (h : n.connect host port l.net = (.ok (), net)) :
    (connect host port).perform n l = (.ok (), { l with net }.record (.connected host port)) := by
  unfold connect
  refine (perform_bind_ok perform_network _).trans ((perform_bind_ok perform_open _).trans ?_)
  rw [h]
  rfl

theorem perform_connect_error {why : String} (h : n.connect host port l.net = (.error why, net)) :
    (connect host port).perform n l = (.error (.agentConnect
      ("Failed connecting to Agent socket " ++ host ++ ":" ++ toString port ++ ": " ++ why)),
        { l with net }) := by
  unfold connect
  refine (perform_bind_ok perform_network _).trans ((perform_bind_ok perform_open _).trans ?_)
  rw [h]
  rfl

end Talk

namespace Socket

variable {ω : Type} {n : Network ω} {l l' : Line ω} {host : String} {port : Nat}
  {expected : Option String} {limit : Nat} {result : Except Failure Socket}

/-- What comes in on a connection once it is open. -/
def heard (n : Network ω) (net : ω) (host : String) (port limit : Nat) : Stream :=
  (n.listen host port limit (n.connect host port net).2).1

/-- What opening a socket comes to, and what of it gets onto the wire. -/
inductive Opening (n : Network ω) (net : ω) (host : String) (port : Nat)
    (expected : Option String) (limit : Nat) :
    Except Failure Socket → List Transmission → Prop where
  | unreachable {why : String} : (n.connect host port net).1 = .error why →
      Opening n net host port expected limit
        (.error (.agentConnect ("Failed connecting to Agent socket " ++ host ++ ":" ++
          toString port ++ ": " ++ why))) []
  | refused {text : String} {refusal : Handshake.Refusal} : (n.connect host port net).1 = .ok () →
      expected = some text →
      Handshake.validate text limit (heard n net host port limit) = .error refusal →
      Opening n net host port expected limit (.error (.agentConnect refusal.message))
        [.connected host port, .disconnected host port]
  | opened : (n.connect host port net).1 = .ok () →
      (∀ text ∈ expected, Handshake.validate text limit (heard n net host port limit) = .ok ()) →
      Opening n net host port expected limit (.ok ⟨host, port, true⟩) [.connected host port]

theorem perform_shakeHands (n : Network ω) (l : Line ω) (host : String) (port : Nat)
    (text : String) (limit : Nat) : ∃ l', (shakeHands host port text limit : Talk ω _).perform n l =
        (.ok (Handshake.validate text limit (n.listen host port limit l.net).1), l') ∧
      l'.wire = l.wire ∧ l'.queueLog = l.queueLog := by
  unfold shakeHands Handshake.validate
  cases Handshake.expect text with
  | error refusal => exact ⟨l, rfl, rfl, rfl⟩
  | ok id => exact ⟨_, rfl, rfl, rfl⟩

theorem opening_connect (h : (connect host port expected limit).perform n l = (result, l')) :
    ∃ ts, l'.wire = l.wire ++ ts ∧ l'.queueLog = l.queueLog ∧
      Opening n l.net host port expected limit result ts := by
  unfold connect at h
  cases hn : n.connect host port l.net with
  | mk opened net =>
      cases opened with
      | error why =>
          rw [Talk.perform_bind_error (Talk.perform_connect_error hn)] at h
          cases h
          exact ⟨[], (List.append_nil _).symm, rfl, .unreachable (by rw [hn])⟩
      | ok =>
          rw [Talk.perform_bind_ok (Talk.perform_connect_ok hn)] at h
          have hok : (n.connect host port l.net).1 = .ok () := by rw [hn]
          cases expected with
          | none =>
              cases h
              exact ⟨_, rfl, rfl, .opened hok fun text ht => by cases ht⟩
          | some text =>
              have hheard : heard n l.net host port limit = (n.listen host port limit net).1 := by
                rw [heard, hn]
              obtain ⟨l₁, hshake, hwire, hlog⟩ := perform_shakeHands n
                ({ l with net }.record (.connected host port)) host port text limit
              rw [Talk.perform_bind_ok hshake] at h
              simp only [Line.record, ← hheard] at h
              cases hvalid : Handshake.validate text limit (heard n l.net host port limit) with
              | ok =>
                  rw [hvalid] at h
                  cases h
                  refine ⟨_, hwire, hlog, .opened hok fun t ht => ?_⟩
                  cases ht
                  exact hvalid
              | error refusal =>
                  rw [hvalid] at h
                  cases h
                  refine ⟨_, ?_, hlog, .refused hok rfl hvalid⟩
                  show l₁.wire ++ _ = _
                  rw [hwire]
                  exact List.append_assoc ..

end Socket

/-! ## Handshakes as a whole -/

namespace Handshake

/-- What the handshake comes to that expects this text, within this limit and on this stream. -/
structure Settled (text : String) (limit : Nat) (s : Stream) : Prop where
  accepted : validate text limit s = .ok () ↔
    ∃ id, Uuid.Denotes text id ∧ s.Brings 20 limit ∧
      s.bytes.take 20 = [0, 0, 0, 16] ++ id.bytes
  badUuid (t : String) (flaw : Uuid.Flaw) : validate text limit s = .error (.badUuid t flaw) ↔
    (∀ id, ¬ Uuid.Denotes text id) ∧ t = text ∧ flaw = Uuid.flaw text
  timedOut (t : Nat) : validate text limit s = .error (.timedOut t) ↔
    (∃ id, Uuid.Denotes text id) ∧ ¬ s.Brings 20 limit ∧
      ¬ s.EndsShort 20 limit ∧ t = limit
  ended : validate text limit s = .error .ended ↔
    (∃ id, Uuid.Denotes text id) ∧ s.EndsShort 20 limit
  badLength (n : Nat) : validate text limit s = .error (.badLength n) ↔
    (∃ id, Uuid.Denotes text id) ∧ s.Brings 20 limit ∧
      n < 0x100000000 ∧ n ≠ 16 ∧ s.bytes.take 4 = numberBytes n
  otherSession : validate text limit s = .error .otherSession ↔
    ∃ id other : Uuid, Uuid.Denotes text id ∧ s.Brings 20 limit ∧
      s.bytes.take 20 = [0, 0, 0, 16] ++ other.bytes ∧ other ≠ id
  /-- A frame is for one UUID, whichever text stands for it. -/
  frame (id : Uuid) : s.Brings 20 limit → s.bytes.take 20 = [0, 0, 0, 16] ++ id.bytes →
    validate id.text limit s = .ok () ∧ (validate text limit s = .ok () ↔ Uuid.Denotes text id)
  /-- Only the first bytes count, and only when they come. -/
  blind (s' : Stream) : s'.arrivals.take 20 = s.arrivals.take 20 →
    (s.arrivals.length < 20 → s'.closesAt? = s.closesAt?) →
    validate text limit s' = validate text limit s
  /-- On a socket a refusal is a failure to connect. -/
  socket {ω : Type} (n : Network ω) (l : Line ω) (host : String) (port : Nat) :
    (n.connect host port l.net).1 = .ok () → Socket.heard n l.net host port limit = s →
    ((Socket.connect host port (some text) limit).perform n l).1 =
      ((validate text limit s).mapError fun refusal => .agentConnect refusal.message).map
        fun _ => ⟨host, port, true⟩

variable {text : String} {limit : Nat} {s : Stream} {id : Uuid}

theorem validate_eq_iff {x : Except Refusal Unit} :
    validate text limit s = x ↔ Outcome text limit s x := by
  constructor
  · rintro rfl
    exact outcome_validate text limit s
  · exact (outcome_validate text limit s).unique

theorem accepted_iff : validate text limit s = .ok () ↔ ∃ id, Uuid.Denotes text id ∧
    s.Brings frameLength limit ∧ s.bytes.take frameLength = Handshake.frame id := by
  rw [validate_eq_iff]
  constructor
  · rintro ⟨⟩
    exact ⟨_, ‹_›, ‹_›, ‹_›⟩
  · rintro ⟨id, hid, hbrings, hbytes⟩
    exact .accepted hid hbrings hbytes

theorem validate_congr {s' : Stream}
    (has : s'.arrivals.take frameLength = s.arrivals.take frameLength)
    (hclose : s.arrivals.length < frameLength → s'.closesAt? = s.closesAt?) :
    validate text limit s' = validate text limit s := by
  unfold validate check
  rw [Stream.first_congr has hclose]

theorem settled (text : String) (limit : Nat) (s : Stream) : Settled text limit s where
  accepted := accepted_iff
  badUuid t flaw := by
    rw [validate_eq_iff]
    constructor
    · rintro ⟨hnone⟩
      exact ⟨hnone, rfl, rfl⟩
    · rintro ⟨hnone, rfl, rfl⟩
      exact .badUuid hnone
  timedOut t := by
    rw [validate_eq_iff]
    constructor
    · rintro ⟨⟩
      exact ⟨⟨_, ‹_›⟩, ‹_›, ‹_›, rfl⟩
    · rintro ⟨⟨id, hid⟩, hbrings, hends, rfl⟩
      exact .timedOut hid hbrings hends
  ended := by
    rw [validate_eq_iff]
    constructor
    · rintro ⟨⟩
      exact ⟨⟨_, ‹_›⟩, ‹_›⟩
    · rintro ⟨⟨id, hid⟩, hends⟩
      exact .ended hid hends
  badLength n := by
    rw [validate_eq_iff]
    constructor
    · rintro ⟨⟩
      exact ⟨⟨_, ‹_›⟩, ‹_›, ‹_›, ‹_›, ‹_›⟩
    · rintro ⟨⟨id, hid⟩, hbrings, hlt, hne, hbytes⟩
      exact .badLength hid hbrings hlt hne hbytes
  otherSession := by
    rw [validate_eq_iff]
    constructor
    · rintro ⟨⟩
      exact ⟨_, _, ‹_›, ‹_›, ‹_›, ‹_›⟩
    · rintro ⟨id, other, hid, hbrings, hbytes, hne⟩
      exact .otherSession hid hbrings hbytes hne
  frame id hbrings hbytes := by
    refine ⟨accepted_iff.2 ⟨id, Uuid.denotes_text id, hbrings, hbytes⟩, ?_⟩
    rw [accepted_iff]
    constructor
    · rintro ⟨other, hother, -, hbytes'⟩
      have heq : other = id := frame_injective (hbytes'.symm.trans hbytes)
      rwa [← heq]
    · exact fun hid => ⟨id, hid, hbrings, hbytes⟩
  blind s' has hclose := validate_congr has hclose
  socket n l host port hok hheard := by
    cases hp : (Socket.connect host port (some text) limit).perform n l with
    | mk result l' =>
        obtain ⟨ts, -, -, hopening⟩ := Socket.opening_connect hp
        cases hopening with
        | unreachable hwhy =>
            rw [hok] at hwhy
            cases hwhy
        | refused _ htext hrefused =>
            cases htext
            rw [← hheard, hrefused]
            rfl
        | opened _ hvalid =>
            rw [← hheard, hvalid text rfl]
            rfl

/-- Three pieces, and a byte too many. -/
example : validate "{00000000-0000-0000-0000-00000000000A}" 1000
    ⟨[(10, [0, 0]), (5, [0, 16, 0, 0, 0]), (5, List.replicate 12 0 ++ [10, 99])], none⟩ =
      .ok () := by
  decide +kernel

end Handshake
end Courier
