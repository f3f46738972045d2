import AgentAllowance.WalletSubmissions

/-!
# Where a preparation is

The invariant of the owners' sessions: a preparation is in the map, with one call, or with
one sent transaction, and never in two of these places.
-/

namespace AgentAllowance.WalletAdmin
open Stellar SmartAccountAuth Transition

variable {sdk : StellarSdk} {wallet : WalletSdk} {console : ConsoleConfig}

/-! ## The map -/

theorem take_spec {T : Type} (operations : PendingOwnerOperations T) (operationId : String)
    (kind : Kind) (owner : String) (now : ℤ) :
    operations.take operationId kind owner now =
        (none, Function.update operations operationId none) ∨
      ∃ pending, operations operationId = some pending ∧ pending.owner = owner ∧
        pending.kind = kind ∧ now ≤ pending.expiresAt ∧
        operations.take operationId kind owner now =
          (some pending, Function.update operations operationId none) := by
  unfold PendingOwnerOperations.take
  cases hpending : operations operationId with
  | none => exact .inl rfl
  | some pending =>
    by_cases hbad : pending.owner ≠ owner ∨ pending.kind ≠ kind ∨ pending.expiresAt < now
    · exact .inl (if_pos hbad)
    · right
      refine ⟨pending, rfl, ?_, ?_, ?_, if_neg hbad⟩
      · by_contra howner
        exact hbad (.inl howner)
      · by_contra hkind
        exact hbad (.inr (.inl hkind))
      · by_contra hlate
        exact hbad (.inr (.inr (by omega)))

theorem put_eq_some {T : Type} {operations operations' : PendingOwnerOperations T}
    {operationId : String} {operation : OwnedPendingOperation T}
    (h : operations.put operationId operation = some operations') :
    operations operationId = none ∧
      operations' = Function.update operations operationId (some operation) := by
  unfold PendingOwnerOperations.put at h
  split_ifs at h with hsome
  exact ⟨by simpa using hsome, (Option.some.inj h).symm⟩

theorem of_delete {T : Type} {operations : PendingOwnerOperations T}
    {operationId operationId' : String} {operation : OwnedPendingOperation T}
    (h : Function.update operations operationId none operationId' = some operation) :
    operations operationId' = some operation := by
  by_cases heq : operationId' = operationId
  · subst heq
    rw [Function.update_self] at h
    cases h
  · rwa [Function.update_of_ne heq] at h

/-! ## The signature -/

/-- The entry that `applyWalletAdminSignature` returns. -/
theorem apply_eq_some (hstandard : StandardCallback sdk wallet) {config : AdminConfig}
    {prepared : PreparedWalletAdminCall} {walletSignature : String}
    {entry : SorobanAuthorizationEntry}
    (h : applyWalletAdminSignature sdk wallet config prepared walletSignature = some entry) :
    ∃ unsigned ledger networkPassphrase preimage signature signed,
      decodeFreighterSignature wallet walletSignature = some signature ∧
      wallet.signEntry unsigned signature config.adminAddress ledger networkPassphrase =
        some signed ∧
      wallet.parseEntry (wallet.entryXdr signed) = some entry ∧
      wallet.toBase64 preimage = prepared.adminAuthPreimageXdr ∧
      wallet.verify config.adminAddress (sdk.hash preimage) signature = true := by
  obtain ⟨unsigned, -, signature, preimage, payload, signed, -, -, -, hdecode, hcallback, hreturned,
    hverify, hsigned, hvalid⟩ := apply_eq_some_iff.mp h
  obtain ⟨hread, -⟩ := validate_eq_some_iff.mp hvalid
  rw [hstandard _ _ _ _ _ hcallback] at hverify
  exact ⟨unsigned, _, _, preimage, signature, signed, hdecode, hsigned, hread, hreturned, hverify⟩

theorem transaction_eq_some {config : AdminConfig} {prepared : PreparedWalletAdminCall}
    {walletSignature : String} {transaction : AdminTransaction}
    (h : walletAdminTransaction sdk wallet config prepared walletSignature = some transaction) :
    transaction.treasuryContract = config.treasuryContract ∧
      transaction.method = prepared.method ∧
      ∃ entry ∈ transaction.auth,
        applyWalletAdminSignature sdk wallet config prepared walletSignature = some entry := by
  unfold walletAdminTransaction at h
  simp only [Option.bind_eq_bind, Option.bind_eq_some_iff, Option.some.injEq] at h
  obtain ⟨args, -, smartEntry, -, signedEntry, hsigned, rfl⟩ := h
  exact ⟨rfl, rfl, signedEntry, by simp, hsigned⟩

theorem prepare_method {config : AdminConfig} {method : Method} {args : List ScVal}
    {sourceSequence : String} {recording : Recording} {prepared : PreparedWalletAdminCall}
    (h : prepareWalletAdminCall sdk wallet config method args sourceSequence recording =
      some prepared) : prepared.method = method := by
  unfold prepareWalletAdminCall at h
  simp only [Option.bind_eq_bind, Option.bind_eq_some_iff, Option.some.injEq] at h
  obtain ⟨_, -, _, -, _, -, _, -, rfl⟩ := h
  rfl

/-! ## Where a preparation is -/

def Pc.taken? : Pc → Option Taken
  | .taken operation | .built operation _ => some operation
  | .preparing _ _ _ | .done => none

inductive Place where
  | pending (operationId : String)
  | call (call : ℕ)
  | sent (position : ℕ)

def Holds (s : State) (preparation : ℕ) : Place → Prop
  | .pending operationId => ∃ operation, s.pending operationId = some operation ∧
      operation.operation.preparation = preparation
  | .call call => ∃ pc taken, s.calls call = some pc ∧ pc.taken? = some taken ∧
      taken.preparation = preparation
  | .sent position => ∃ sent, s.sent[position]? = some sent ∧
      sent.taken.preparation = preparation

variable (sdk wallet console)

structure Consistent (s : State) : Prop where
  unique : ∀ n p q, Holds s n p → Holds s n q → p = q
  methods : ∀ preparation ∈ s.preparations,
    preparation.prepared.method = preparation.kind.method
  pending : ∀ operationId operation, s.pending operationId = some operation →
    s.preparations[operation.operation.preparation]? = some ⟨operation.owner, operation.kind,
      operation.operation.prepared, operation.expiresAt - 60000⟩
  taken : ∀ call pc taken, s.calls call = some pc → pc.taken? = some taken →
    ∃ preparation, PreparedFor s taken preparation
  unforged : ∀ call pc taken, s.calls call = some pc → pc.taken? = some taken →
    ∀ signature, decodeFreighterSignature wallet taken.walletSignature = some signature →
      ∀ owner payload, wallet.verify owner payload signature = true → (owner, payload) ∈ s.signed
  built : ∀ call taken transaction, s.calls call = some (.built taken transaction) →
    walletAdminTransaction sdk wallet (console.adminConfig taken.owner) taken.prepared
      taken.walletSignature = some transaction
  sent : ∀ sent ∈ s.sent, ∃ preparation, SentOk sdk wallet console s sent preparation

variable {sdk wallet console} {s t : State}

/-- A preparation that moves is still in one place. -/
theorem unique_of_moves (f : Place → Place) (h : Consistent sdk wallet console s)
    (hmove : ∀ n p, Holds t n p → Holds s n (f p))
    (hinj : ∀ n p q, Holds t n p → Holds t n q → f p = f q → p = q) :
    ∀ n p q, Holds t n p → Holds t n q → p = q := by
  intro n p q hp hq
  exact hinj n p q hp hq (h.unique n (f p) (f q) (hmove n p hp) (hmove n q hq))

theorem preparedFor_mono {taken : Taken} {preparation : Preparation}
    (h : PreparedFor s taken preparation) (hgrow : s.preparations <+: t.preparations) :
    PreparedFor t taken preparation where
  place := by
    obtain ⟨later, hlater⟩ := hgrow
    rw [← hlater, List.getElem?_append_left (List.getElem?_eq_some_iff.mp h.place).1]
    exact h.place
  owner := h.owner
  kind := h.kind
  prepared := h.prepared
  inTime := h.inTime

theorem sentOk_mono {sent : Sent} {preparation : Preparation}
    (h : SentOk sdk wallet console s sent preparation)
    (hgrow : s.preparations <+: t.preparations) (hsigned : s.signed ⊆ t.signed) :
    SentOk sdk wallet console t sent preparation where
  toPreparedFor := preparedFor_mono h.toPreparedFor hgrow
  treasury := h.treasury
  method := h.method
  signature := by
    obtain ⟨entry, hentry, unsigned, ledger, networkPassphrase, preimage, signature, signed,
      hsign, hparse, hpreimage, hverify, hmem⟩ := h.signature
    exact ⟨entry, hentry, unsigned, ledger, networkPassphrase, preimage, signature, signed, hsign,
      hparse, hpreimage, hverify, hsigned hmem⟩

theorem taken_mono {call : ℕ} {pc : Pc} {taken : Taken} (h : Consistent sdk wallet console s)
    (hgrow : s.preparations <+: t.preparations) (hcall : s.calls call = some pc)
    (htaken : pc.taken? = some taken) : ∃ preparation, PreparedFor t taken preparation := by
  obtain ⟨preparation, hprepared⟩ := h.taken call pc taken hcall htaken
  exact ⟨preparation, preparedFor_mono hprepared hgrow⟩

theorem sent_mono {sent : Sent} (h : Consistent sdk wallet console s)
    (hgrow : s.preparations <+: t.preparations) (hsigned : s.signed ⊆ t.signed)
    (hsent : sent ∈ s.sent) :
    ∃ preparation, SentOk sdk wallet console t sent preparation := by
  obtain ⟨preparation, hok⟩ := h.sent sent hsent
  exact ⟨preparation, sentOk_mono hok hgrow hsigned⟩

theorem initial_consistent : Consistent sdk wallet console initial where
  unique n p q hp := by
    cases p with
    | pending operationId => obtain ⟨operation, h, -⟩ := hp; cases h
    | call call => obtain ⟨pc, taken, h, -⟩ := hp; cases h
    | sent position => obtain ⟨sent, h, -⟩ := hp; simp [initial] at h
  methods preparation h := by simp [initial] at h
  pending operationId operation h := by cases h
  taken call pc taken h := by cases h
  unforged call pc taken h := by cases h
  built call taken transaction h := by cases h
  sent sent h := by simp [initial] at h

/-! ## One call goes on -/

theorem of_goto {call call' : ℕ} {pc pc' : Pc} (h : (s.goto call pc).calls call' = some pc') :
    (call' = call ∧ pc' = pc) ∨ (call' ≠ call ∧ s.calls call' = some pc') := by
  have hupdate : Function.update s.calls call (some pc) call' = some pc' := h
  by_cases heq : call' = call
  · subst heq
    rw [Function.update_self] at hupdate
    exact .inl ⟨rfl, (Option.some.inj hupdate).symm⟩
  · rw [Function.update_of_ne heq] at hupdate
    exact .inr ⟨heq, hupdate⟩

/-- The call goes on to hold nothing. -/
theorem goto_consistent {call : ℕ} {pc : Pc} (h : Consistent sdk wallet console s)
    (hpc : pc.taken? = none) : Consistent sdk wallet console (s.goto call pc) where
  unique := by
    apply unique_of_moves id h
    · intro n p hp
      cases p with
      | pending operationId => exact hp
      | sent position => exact hp
      | call call' =>
        obtain ⟨pc', taken, hcall, htaken, hn⟩ := hp
        rcases of_goto hcall with ⟨-, rfl⟩ | ⟨-, hold⟩
        · rw [hpc] at htaken
          cases htaken
        · exact ⟨pc', taken, hold, htaken, hn⟩
    · exact fun _ _ _ _ _ heq => heq
  methods := h.methods
  pending := h.pending
  taken call' pc' taken hcall htaken := by
    rcases of_goto hcall with ⟨-, rfl⟩ | ⟨-, hold⟩
    · rw [hpc] at htaken
      cases htaken
    · exact taken_mono h (List.prefix_refl _) hold htaken
  unforged call' pc' taken hcall htaken := by
    rcases of_goto hcall with ⟨-, rfl⟩ | ⟨-, hold⟩
    · rw [hpc] at htaken
      cases htaken
    · exact h.unforged call' pc' taken hold htaken
  built call' taken transaction hcall := by
    rcases of_goto hcall with ⟨-, rfl⟩ | ⟨-, hold⟩
    · cases hpc
    · exact h.built call' taken transaction hold
  sent _ hsent := sent_mono h (List.prefix_refl _) (List.Subset.refl _) hsent

/-- The operation of a call becomes a transaction. -/
theorem build_consistent {call : ℕ} {operation : Taken} {transaction : AdminTransaction}
    (h : Consistent sdk wallet console s) (hcall : s.calls call = some (.taken operation))
    (hbuilt : walletAdminTransaction sdk wallet (console.adminConfig operation.owner)
      operation.prepared operation.walletSignature = some transaction) :
    Consistent sdk wallet console (s.goto call (.built operation transaction)) where
  unique := by
    apply unique_of_moves id h
    · intro n p hp
      cases p with
      | pending operationId => exact hp
      | sent position => exact hp
      | call call' =>
        obtain ⟨pc', taken, hcall', htaken, hn⟩ := hp
        rcases of_goto hcall' with ⟨rfl, rfl⟩ | ⟨-, hold⟩
        · exact ⟨_, taken, hcall, htaken, hn⟩
        · exact ⟨pc', taken, hold, htaken, hn⟩
    · exact fun _ _ _ _ _ heq => heq
  methods := h.methods
  pending := h.pending
  taken call' pc' taken hcall' htaken := by
    rcases of_goto hcall' with ⟨rfl, rfl⟩ | ⟨-, hold⟩
    · exact taken_mono h (List.prefix_refl _) hcall htaken
    · exact taken_mono h (List.prefix_refl _) hold htaken
  unforged call' pc' taken hcall' htaken := by
    rcases of_goto hcall' with ⟨rfl, rfl⟩ | ⟨-, hold⟩
    · exact h.unforged call' _ taken hcall htaken
    · exact h.unforged call' pc' taken hold htaken
  built call' taken transaction' hcall' := by
    rcases of_goto hcall' with ⟨rfl, heq⟩ | ⟨-, hold⟩
    · obtain ⟨rfl, rfl⟩ := Pc.built.inj heq
      exact hbuilt
    · exact h.built call' taken transaction' hold
  sent _ hsent := sent_mono h (List.prefix_refl _) (List.Subset.refl _) hsent

theorem sign_consistent (h : Consistent sdk wallet console s) (entry : String × Bytes) :
    Consistent sdk wallet console { s with signed := s.signed ++ [entry] } where
  unique := h.unique
  methods := h.methods
  pending := h.pending
  taken _ _ _ hcall htaken := taken_mono h (List.prefix_refl _) hcall htaken
  unforged call pc taken hcall htaken signature hdecode owner payload hverify :=
    List.mem_append_left _ (h.unforged call pc taken hcall htaken signature hdecode owner payload
      hverify)
  built := h.built
  sent _ hsent := sent_mono h (List.prefix_refl _) (List.subset_append_left _ _) hsent

/-! ## A preparation is made, taken and sent -/

theorem lt_of_holds {n : ℕ} {p : Place} (h : Consistent sdk wallet console s)
    (hp : Holds s n p) : n < s.preparations.length := by
  cases p with
  | pending operationId =>
    obtain ⟨operation, hpending, rfl⟩ := hp
    exact (List.getElem?_eq_some_iff.mp (h.pending operationId operation hpending)).1
  | call call =>
    obtain ⟨pc, taken, hcall, htaken, rfl⟩ := hp
    obtain ⟨preparation, hprepared⟩ := h.taken call pc taken hcall htaken
    exact (List.getElem?_eq_some_iff.mp hprepared.place).1
  | sent position =>
    obtain ⟨sent, hsent, rfl⟩ := hp
    obtain ⟨preparation, hok⟩ := h.sent sent (List.mem_of_getElem? hsent)
    exact (List.getElem?_eq_some_iff.mp hok.place).1

/-- The state after an operation has been prepared and put. -/
def State.afterPut (s : State) (owner : String) (kind : Kind) (operationId : String) (now : ℤ)
    (prepared : PreparedWalletAdminCall) : State :=
  { s with
    pending := Function.update s.pending operationId
      (some ⟨owner, kind, now + 60000, ⟨prepared, s.preparations.length⟩⟩)
    preparations := s.preparations ++ [⟨owner, kind, prepared, now⟩] }

theorem put_consistent {owner operationId : String} {kind : Kind} {now : ℤ}
    {prepared : PreparedWalletAdminCall} (h : Consistent sdk wallet console s)
    (hmethod : prepared.method = kind.method) (hfree : s.pending operationId = none) :
    Consistent sdk wallet console (s.afterPut owner kind operationId now prepared) where
  unique := by
    -- The new number has no earlier place, and no old place is the new one.
    have hcases : ∀ n p, Holds (s.afterPut owner kind operationId now prepared) n p →
        (n = s.preparations.length ∧ p = .pending operationId) ∨ Holds s n p := by
      intro n p hp
      cases p with
      | call call => exact .inr hp
      | sent position => exact .inr hp
      | pending operationId' =>
        obtain ⟨operation, hpending, hn⟩ := hp
        change Function.update s.pending operationId _ operationId' = some operation at hpending
        by_cases heq : operationId' = operationId
        · subst heq
          rw [Function.update_self] at hpending
          obtain rfl := Option.some.inj hpending
          exact .inl ⟨hn.symm, rfl⟩
        · rw [Function.update_of_ne heq] at hpending
          exact .inr ⟨operation, hpending, hn⟩
    intro n p q hp hq
    rcases hcases n p hp with ⟨hn, rfl⟩ | hp
    · rcases hcases n q hq with ⟨-, rfl⟩ | hq
      · rfl
      · have := lt_of_holds h hq
        omega
    · rcases hcases n q hq with ⟨hn, -⟩ | hq
      · have := lt_of_holds h hp
        omega
      · exact h.unique n p q hp hq
  methods preparation hmem := by
    rcases List.mem_append.mp hmem with hold | hnew
    · exact h.methods preparation hold
    · obtain rfl := List.mem_singleton.mp hnew
      exact hmethod
  pending operationId' operation hpending := by
    change Function.update s.pending operationId _ operationId' = some operation at hpending
    by_cases heq : operationId' = operationId
    · subst heq
      rw [Function.update_self] at hpending
      obtain rfl := Option.some.inj hpending
      have hlast : (s.preparations ++ [⟨owner, kind, prepared, now⟩])[s.preparations.length]? =
          some ⟨owner, kind, prepared, now⟩ := List.getElem?_concat_length
      have hexpires : now + 60000 - 60000 = now := by omega
      change _ = some (Preparation.mk owner kind prepared (now + 60000 - 60000))
      rw [hexpires]
      exact hlast
    · rw [Function.update_of_ne heq] at hpending
      have hplace := h.pending operationId' operation hpending
      have hlt := (List.getElem?_eq_some_iff.mp hplace).1
      exact (List.getElem?_append_left hlt).trans hplace
  taken _ _ _ hcall htaken := taken_mono h (List.prefix_append _ _) hcall htaken
  unforged := h.unforged
  built := h.built
  sent _ hsent := sent_mono h (List.prefix_append _ _) (List.Subset.refl _) hsent

/-- An operation leaves the map, whether or not it is returned. -/
theorem delete_consistent (h : Consistent sdk wallet console s) (operationId : String) :
    Consistent sdk wallet console
      { s with pending := Function.update s.pending operationId none } where
  unique := by
    apply unique_of_moves id h
    · intro n p hp
      cases p with
      | call call => exact hp
      | sent position => exact hp
      | pending operationId' =>
        obtain ⟨operation, hpending, hn⟩ := hp
        exact ⟨operation, of_delete hpending, hn⟩
    · exact fun _ _ _ _ _ heq => heq
  methods := h.methods
  pending operationId' operation hpending :=
    h.pending operationId' operation (of_delete hpending)
  taken _ _ _ hcall htaken := taken_mono h (List.prefix_refl _) hcall htaken
  unforged := h.unforged
  built := h.built
  sent _ hsent := sent_mono h (List.prefix_refl _) (List.Subset.refl _) hsent

/-- Where the preparation was before a call took it from the map. -/
def beforeTake (call : ℕ) (operationId : String) : Place → Place
  | .call call' => if call' = call then .pending operationId else .call call'
  | .pending operationId' => .pending operationId'
  | .sent position => .sent position

theorem take_consistent {call : ℕ} {operationId walletSignature : String} {now : ℤ}
    {operation : OwnedPendingOperation PreparedOperation}
    (h : Consistent sdk wallet console s) (hpending : s.pending operationId = some operation)
    (htime : now ≤ operation.expiresAt)
    (hunforged : ∀ signature, decodeFreighterSignature wallet walletSignature = some signature →
      ∀ owner payload, wallet.verify owner payload signature = true →
        (owner, payload) ∈ s.signed) :
    Consistent sdk wallet console
      { s.goto call (.taken ⟨operation.owner, operation.kind, operation.operation.prepared,
          operation.operation.preparation, walletSignature, now⟩) with
        pending := Function.update s.pending operationId none } where
  unique := by
    apply unique_of_moves (beforeTake call operationId) h
    · intro n p hp
      cases p with
      | sent position => exact hp
      | pending operationId' =>
        obtain ⟨operation', hpending', hn⟩ := hp
        exact ⟨operation', of_delete hpending', hn⟩
      | call call' =>
        obtain ⟨pc, taken, hcall, htaken, hn⟩ := hp
        change Holds s n (if call' = call then .pending operationId else .call call')
        rcases of_goto hcall with ⟨rfl, rfl⟩ | ⟨hne, hold⟩
        · rw [if_pos rfl]
          obtain rfl := Option.some.inj htaken
          exact ⟨operation, hpending, hn⟩
        · rw [if_neg hne]
          exact ⟨pc, taken, hold, htaken, hn⟩
    · intro n p q hp hq heq
      have hgone : ∀ m, ¬ Holds { s.goto call (.taken ⟨operation.owner, operation.kind,
          operation.operation.prepared, operation.operation.preparation, walletSignature, now⟩) with
            pending := Function.update s.pending operationId none } m (.pending operationId) := by
        rintro m ⟨operation', hsome, -⟩
        change Function.update s.pending operationId none operationId = some operation' at hsome
        rw [Function.update_self] at hsome
        cases hsome
      cases p <;> cases q <;> simp only [beforeTake] at heq <;> grind
  methods := h.methods
  pending operationId' operation' hpending' :=
    h.pending operationId' operation' (of_delete hpending')
  taken call' pc taken hcall htaken := by
    rcases of_goto hcall with ⟨-, rfl⟩ | ⟨-, hold⟩
    · obtain rfl := Option.some.inj htaken
      have hplace := h.pending operationId operation hpending
      exact ⟨_, hplace, rfl, rfl, rfl, by change now ≤ _ - 60000 + 60000; omega⟩
    · exact taken_mono h (List.prefix_refl _) hold htaken
  unforged call' pc taken hcall htaken := by
    rcases of_goto hcall with ⟨-, rfl⟩ | ⟨-, hold⟩
    · obtain rfl := Option.some.inj htaken
      exact hunforged
    · exact h.unforged call' pc taken hold htaken
  built call' taken transaction hcall := by
    rcases of_goto hcall with ⟨-, heq⟩ | ⟨-, hold⟩
    · cases heq
    · exact h.built call' taken transaction hold
  sent _ hsent := sent_mono h (List.prefix_refl _) (List.Subset.refl _) hsent

/-- What a built transaction contains. -/
theorem built_ok (hstandard : StandardCallback sdk wallet) {call : ℕ} {taken : Taken}
    {transaction : AdminTransaction} (h : Consistent sdk wallet console s)
    (hcall : s.calls call = some (.built taken transaction)) :
    ∃ preparation, SentOk sdk wallet console s ⟨taken, transaction⟩ preparation := by
  obtain ⟨preparation, hprepared⟩ := h.taken call _ taken hcall rfl
  have hbuilt := h.built call taken transaction hcall
  obtain ⟨htreasury, hmethod, entry, hentry, happly⟩ := transaction_eq_some hbuilt
  obtain ⟨unsigned, ledger, networkPassphrase, preimage, signature, signed, hdecode, hsign, hparse,
    hpreimage, hverify⟩ := apply_eq_some hstandard happly
  have hmem := h.unforged call _ taken hcall rfl signature hdecode taken.owner _ hverify
  refine ⟨preparation, hprepared, htreasury, ?_, ?_⟩
  · have hkind := h.methods preparation (List.mem_of_getElem? hprepared.place)
    rw [hprepared.prepared, hprepared.kind] at hkind
    exact hmethod.trans hkind
  · rw [← hprepared.prepared] at hpreimage
    exact ⟨entry, hentry, unsigned, ledger, networkPassphrase, preimage, signature, signed, hsign,
      hparse, hpreimage, hverify, hmem⟩

/-- Where the preparation was before a call sent its transaction. -/
def beforeSend (call position : ℕ) : Place → Place
  | .sent position' => if position' = position then .call call else .sent position'
  | .pending operationId => .pending operationId
  | .call call' => .call call'

theorem send_consistent (hstandard : StandardCallback sdk wallet) {call : ℕ} {operation : Taken}
    {transaction : AdminTransaction} (h : Consistent sdk wallet console s)
    (hcall : s.calls call = some (.built operation transaction)) :
    Consistent sdk wallet console
      { s.goto call .done with sent := s.sent ++ [⟨operation, transaction⟩] } where
  unique := by
    have hold : ∀ n p, Holds (s.goto call .done) n p → Holds s n p ∧ p ≠ .call call := by
      intro n p hp
      cases p with
      | pending operationId => exact ⟨hp, by simp⟩
      | sent position => exact ⟨hp, by simp⟩
      | call call' =>
        obtain ⟨pc, taken, hcall', htaken, hn⟩ := hp
        rcases of_goto hcall' with ⟨-, rfl⟩ | ⟨hne, hold⟩
        · cases htaken
        · exact ⟨⟨pc, taken, hold, htaken, hn⟩, by simpa using hne⟩
    apply unique_of_moves (beforeSend call s.sent.length) h
    · intro n p hp
      cases p with
      | pending operationId => exact hp
      | call call' => exact (hold n (.call call') hp).1
      | sent position =>
        obtain ⟨sent, hsent, hn⟩ := hp
        change (s.sent ++ [⟨operation, transaction⟩])[position]? = some sent at hsent
        change Holds s n (if position = s.sent.length then .call call else .sent position)
        by_cases hlast : position = s.sent.length
        · subst hlast
          rw [List.getElem?_concat_length] at hsent
          obtain rfl := Option.some.inj hsent
          rw [if_pos rfl]
          exact ⟨_, operation, hcall, rfl, hn⟩
        · rw [if_neg hlast]
          have hlt := (List.getElem?_eq_some_iff.mp hsent).1
          rw [List.length_append, List.length_singleton] at hlt
          rw [List.getElem?_append_left (by omega)] at hsent
          exact ⟨sent, hsent, hn⟩
    · intro n p q hp hq heq
      have hgone : ∀ m, ¬ Holds { s.goto call .done with
          sent := s.sent ++ [⟨operation, transaction⟩] } m (.call call) :=
        fun m hm => (hold m (.call call) hm).2 rfl
      cases p <;> cases q <;> simp only [beforeSend] at heq <;> grind
  methods := h.methods
  pending := h.pending
  taken call' pc taken hcall' htaken := by
    rcases of_goto hcall' with ⟨-, rfl⟩ | ⟨-, hold⟩
    · cases htaken
    · exact taken_mono h (List.prefix_refl _) hold htaken
  unforged call' pc taken hcall' htaken := by
    rcases of_goto hcall' with ⟨-, rfl⟩ | ⟨-, hold⟩
    · cases htaken
    · exact h.unforged call' pc taken hold htaken
  built call' taken transaction' hcall' := by
    rcases of_goto hcall' with ⟨-, heq⟩ | ⟨-, hold⟩
    · cases heq
    · exact h.built call' taken transaction' hold
  sent sent hsent := by
    rcases List.mem_append.mp hsent with hold | hnew
    · exact sent_mono h (List.prefix_refl _) (List.Subset.refl _) hold
    · obtain rfl := List.mem_singleton.mp hnew
      obtain ⟨preparation, hok⟩ := built_ok hstandard h hcall
      exact ⟨preparation, sentOk_mono hok (List.prefix_refl _) (List.Subset.refl _)⟩

end AgentAllowance.WalletAdmin
