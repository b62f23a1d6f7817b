import XgenLink.System.Node

/-!
# `XgenLink.Api.Config`: configuration of an instance

`xgl_config_t`, `xgl_config_validate` and what `xgl_init` hands to the layers. The first check
that fails decides the code, so the order of the checks is the order of the source.

Only what the configuration says goes into the layers; the memory an instance is given is not
modelled here. The functions of an allocator and of a PHY are flags where only their presence is
checked.

* `xglConfigValidate_routes`: what the validation says about every route.
-/

set_option autoImplicit false

namespace XgenLink

/-! ### Limits -/

/-- `XGL_MIN_TX_POOL_SIZE`. -/
def XGL_MIN_TX_POOL_SIZE : Nat := 512
/-- `XGL_MAX_TX_POOL_SIZE`. -/
def XGL_MAX_TX_POOL_SIZE : Nat := 65536
/-- `XGL_MIN_RX_BUFFER_SIZE`. -/
def XGL_MIN_RX_BUFFER_SIZE : Nat := 64
/-- `XGL_MAX_RX_BUFFER_SIZE`. -/
def XGL_MAX_RX_BUFFER_SIZE : Nat := 4096
/-- `XGL_MIN_ACK_TIMEOUT_MS`. -/
def XGL_MIN_ACK_TIMEOUT_MS : UInt32 := 100
/-- `XGL_MAX_ACK_TIMEOUT_MS`. -/
def XGL_MAX_ACK_TIMEOUT_MS : UInt32 := 10000
/-- `XGL_MIN_RETRY_COUNT`. -/
def XGL_MIN_RETRY_COUNT : UInt8 := 1
/-- `XGL_MAX_RETRY_COUNT`. -/
def XGL_MAX_RETRY_COUNT : UInt8 := 10
/-- `XGL_MIN_WINDOW_SIZE`. -/
def XGL_MIN_WINDOW_SIZE : UInt8 := 1
/-- `XGL_MAX_WINDOW_SIZE`. -/
def XGL_MAX_WINDOW_SIZE : UInt8 := 32
/-- `XGL_MIN_FRAME_SIZE`. -/
def XGL_MIN_FRAME_SIZE : UInt16 := 64
/-- `XGL_MAX_FRAME_SIZE`. -/
def XGL_MAX_FRAME_SIZE : UInt16 := 2048

/-- `XGL_FRAME_HEADER_SIZE` of the public header, the size of a wire header without
extensions. -/
def XGL_FRAME_HEADER_SIZE : Nat := 24

/-! ### Configuration -/

/-- `xgl_allocator_t`; the functions are flags that say whether they are set. -/
structure XglAllocator where
  malloc : Bool
  free : Bool

/-- `xgl_memory_config_t`. -/
structure MemoryConfig where
  txPoolSize : Nat
  rxBufferSize : Nat
  allocator : Option XglAllocator := none

/-- `xgl_protocol_config_t`. -/
structure ProtocolConfig where
  ackTimeoutMs : UInt32
  maxRetryCount : UInt8
  windowSize : UInt8
  maxFrameSize : UInt16

/-- `xgl_feature_config_t`. -/
structure FeatureConfig where
  enableFragmentation : Bool := false
  enableCompression : Bool := false
  enableEncryption : Bool := false
  threadSafe : Bool := false
  peerIdleTimeoutMs : UInt32 := 0
  maxReassemblySlots : UInt8 := 0

/-- A route of the configuration. `phyRx` says whether its PHY has a receive
function. -/
structure ConfigRoute extends RouteItem where
  phyRx : Bool := true
  readFreqHz : UInt32

/-- `xgl_config_t`. A route table that is NULL has no array. -/
structure XglConfig where
  sourceId : UInt16
  memory : MemoryConfig
  protocol : ProtocolConfig
  features : FeatureConfig := {}
  authRequired : Bool := false
  authKeyId : UInt32 := 0
  authProvider : Option AuthProvider := none
  routeTable : Option (List ConfigRoute) := none
  routeTableLen : Nat := 0
  rxCallback : Bool := true
  errorCallback : Bool := false
  codecs : List Codec := []

/-- The routes the configuration names. -/
def XglConfig.routes (config : XglConfig) : List ConfigRoute :=
  (config.routeTable.getD []).take config.routeTableLen

/-! ### Validation -/

/-- The checks of one route. -/
def configRouteValid (route : ConfigRoute) : Bool :=
  match route.phy with
  | none => false
  | some phy =>
    -- both functions of the PHY have to be there
    phy.tx.isSome && route.phyRx &&
      !(route.maxFrameSize < XGL_MIN_FRAME_SIZE || route.maxFrameSize > XGL_MAX_FRAME_SIZE) &&
      route.readFreqHz != 0

/-- The checks of an authenticated configuration. -/
def configAuthValid (config : XglConfig) : Bool :=
  (match config.memory.allocator with
    | none => false
    | some allocator => allocator.malloc && allocator.free) &&
  match config.authProvider with
  | none => false
  | some provider =>
    provider.sign.isSome && provider.verify.isSome &&
      !(provider.tagLen == 0 || provider.tagLen > XGL_AUTH_TAG_MAX_LEN)

/-- `xgl_config_validate`; `threadSafeBuild` is whether `XGL_THREAD_SAFE` is defined. -/
def xglConfigValidate (threadSafeBuild : Bool) (config : XglConfig) : XglError :=
  if config.sourceId == 0 || config.sourceId == XGL_BROADCAST_ID then .invalidParam
  else if config.memory.txPoolSize < XGL_MIN_TX_POOL_SIZE ||
      config.memory.txPoolSize > XGL_MAX_TX_POOL_SIZE then .invalidParam
  else if config.memory.rxBufferSize < XGL_MIN_RX_BUFFER_SIZE ||
      config.memory.rxBufferSize > XGL_MAX_RX_BUFFER_SIZE then .invalidParam
  else if config.protocol.ackTimeoutMs < XGL_MIN_ACK_TIMEOUT_MS ||
      config.protocol.ackTimeoutMs > XGL_MAX_ACK_TIMEOUT_MS then .invalidParam
  else if config.protocol.maxRetryCount < XGL_MIN_RETRY_COUNT ||
      config.protocol.maxRetryCount > XGL_MAX_RETRY_COUNT then .invalidParam
  else if config.protocol.windowSize < XGL_MIN_WINDOW_SIZE ||
      config.protocol.windowSize > XGL_MAX_WINDOW_SIZE then .invalidParam
  else if config.protocol.maxFrameSize < XGL_MIN_FRAME_SIZE ||
      config.protocol.maxFrameSize > XGL_MAX_FRAME_SIZE then .invalidParam
  else if config.protocol.maxFrameSize.toNat < XGL_FRAME_HEADER_SIZE + XGL_CRC16_SIZE then
    .invalidParam
  -- compression and encryption cannot be switched on in this version
  else if config.features.enableCompression || config.features.enableEncryption then .invalidParam
  else if config.authRequired && !configAuthValid config then .invalidParam
  else if !threadSafeBuild && config.features.threadSafe then .invalidParam
  -- a frame has to fit into the receive buffer
  else if config.memory.rxBufferSize < config.protocol.maxFrameSize.toNat then .bufferTooSmall
  -- a length without an array
  else if config.routeTableLen > 0 && config.routeTable.isNone then .invalidParam
  else if !config.routes.all configRouteValid then .invalidParam
  else .ok

/-! ### Routes -/

/-- `xgl_route_table_add` over an allocator that serves it: the route of a known target is
replaced in its place. -/
def xglRouteTableAdd (table : RouteTable) (route : RouteItem) : RouteTable :=
  if table.any fun known => known.targetId == route.targetId then
    table.map fun known => if known.targetId == route.targetId then route else known
  else table ++ [route]

/-- `xgl_route_table_load`. -/
def xglRouteTableLoad (routes : List ConfigRoute) : RouteTable :=
  routes.foldl (fun table route => xglRouteTableAdd table route.toRouteItem) []

/-! ### Layers -/

/-- The tag length `xgl_init` gives to the transport layer. -/
def XglConfig.authTagLen (config : XglConfig) : UInt8 :=
  if config.authRequired then
    match config.authProvider with
    | some provider => UInt8.ofNat provider.tagLen
    | none => 0
  else 0

/-- The transport configuration of `xgl_init`. -/
def XglConfig.transportConfig (config : XglConfig) (routeTable : RouteTable)
    (codecRegistry : List Codec) : TransportConfig where
  localId := config.sourceId
  maxRetryCount := config.protocol.maxRetryCount
  defaultTimeoutMs := config.protocol.ackTimeoutMs
  windowSize := config.protocol.windowSize
  enableFragmentation := config.features.enableFragmentation
  maxFrameSize := config.protocol.maxFrameSize
  authTagLen := config.authTagLen
  routeTable := some routeTable
  lowerLayer := true
  rxCallback := config.rxCallback
  errorCallback := config.errorCallback
  peerIdleTimeoutMs := config.features.peerIdleTimeoutMs
  maxReassemblySlots := config.features.maxReassemblySlots
  codecRegistry := codecRegistry

/-- The network layer of `xgl_init`, wired to the layers next to it. -/
def XglConfig.networkCtx (config : XglConfig) (routeTable : RouteTable) : NetworkCtx where
  localId := config.sourceId
  routeTable := routeTable
  upperLayer := true
  lowerLayer := true
  errorCallback := config.errorCallback
  authRequired := config.authRequired
  authProvider := config.authProvider

/-! ### What the validation says -/

section Valid

variable {threadSafeBuild : Bool} {config : XglConfig}

/-- A check that reports an error was not met. -/
theorem check_passed {c : Prop} [Decidable c] {err rest : XglError} (hne : err ≠ .ok)
    (h : (if c then err else rest) = .ok) : ¬ c ∧ rest = .ok := by
  by_cases hc : c
  · rw [if_pos hc] at h
    exact absurd h hne
  · rw [if_neg hc] at h
    exact ⟨hc, h⟩

/-- The checks an accepted configuration passed. -/
theorem xglConfigValidate_checks (h : xglConfigValidate threadSafeBuild config = .ok) :
    (config.authRequired = true → configAuthValid config = true) ∧
      config.routes.all configRouteValid = true ∧
      ¬ config.protocol.maxFrameSize < XGL_MIN_FRAME_SIZE := by
  obtain ⟨_, h⟩ := check_passed (by decide) h
  obtain ⟨_, h⟩ := check_passed (by decide) h
  obtain ⟨_, h⟩ := check_passed (by decide) h
  obtain ⟨_, h⟩ := check_passed (by decide) h
  obtain ⟨_, h⟩ := check_passed (by decide) h
  obtain ⟨_, h⟩ := check_passed (by decide) h
  obtain ⟨hsize, h⟩ := check_passed (by decide) h
  obtain ⟨_, h⟩ := check_passed (by decide) h
  obtain ⟨_, h⟩ := check_passed (by decide) h
  obtain ⟨hauth, h⟩ := check_passed (by decide) h
  obtain ⟨_, h⟩ := check_passed (by decide) h
  obtain ⟨_, h⟩ := check_passed (by decide) h
  obtain ⟨_, h⟩ := check_passed (by decide) h
  obtain ⟨hroutes, _⟩ := check_passed (by decide) h
  refine ⟨fun hrequired => ?_, by simpa using hroutes, ?_⟩
  · simpa [hrequired] using hauth
  · simp only [Bool.or_eq_true, decide_eq_true_eq, not_or] at hsize
    exact hsize.1

/-- An accepted authenticated configuration has a provider that signs, with a tag of an
accepted length. -/
theorem xglConfigValidate_auth (h : xglConfigValidate threadSafeBuild config = .ok)
    (hauth : config.authRequired = true) :
    ∃ provider, config.authProvider = some provider ∧ provider.sign.isSome = true ∧
      0 < provider.tagLen ∧ provider.tagLen ≤ 32 := by
  have hvalid := (xglConfigValidate_checks h).1 hauth
  simp only [configAuthValid, Bool.and_eq_true] at hvalid
  cases hprovider : config.authProvider with
  | none => simp [hprovider] at hvalid
  | some provider =>
    simp only [hprovider, Bool.and_eq_true, Bool.not_eq_true', Bool.or_eq_false_iff,
      beq_eq_false_iff_ne] at hvalid
    have hlong : ¬ provider.tagLen > XGL_AUTH_TAG_MAX_LEN := of_decide_eq_false hvalid.2.2.2
    simp only [XGL_AUTH_TAG_MAX_LEN] at hlong
    exact ⟨provider, rfl, hvalid.2.1.1, by omega, by omega⟩

/-- Every route of an accepted configuration passed its checks. -/
theorem xglConfigValidate_routes (h : xglConfigValidate threadSafeBuild config = .ok) :
    ∀ route ∈ config.routes, configRouteValid route = true :=
  List.all_eq_true.mp (xglConfigValidate_checks h).2.1

/-- A loaded table holds routes of the configuration. -/
theorem mem_xglRouteTableLoad {routes : List ConfigRoute} {route : RouteItem}
    (h : route ∈ xglRouteTableLoad routes) : ∃ loaded ∈ routes, loaded.toRouteItem = route := by
  have hadd : ∀ {table : RouteTable} {added known : RouteItem},
      known ∈ xglRouteTableAdd table added → known ∈ table ∨ known = added := by
    intro table added known hmem
    simp only [xglRouteTableAdd] at hmem
    split at hmem
    · obtain ⟨old, hold, rfl⟩ := List.mem_map.mp hmem
      split
      · exact .inr rfl
      · exact .inl hold
    · rcases List.mem_append.mp hmem with hold | hnew
      · exact .inl hold
      · exact .inr (List.mem_singleton.mp hnew)
  have hload : ∀ (routes : List ConfigRoute) (table : RouteTable),
      route ∈ routes.foldl (fun table route => xglRouteTableAdd table route.toRouteItem) table →
        route ∈ table ∨ ∃ loaded ∈ routes, loaded.toRouteItem = route := by
    intro routes
    induction routes with
    | nil => exact fun table hmem => .inl hmem
    | cons first rest ih =>
      intro table hmem
      rcases ih _ hmem with hadded | ⟨loaded, hloaded, heq⟩
      · rcases hadd hadded with hold | rfl
        · exact .inl hold
        · exact .inr ⟨first, List.mem_cons_self, rfl⟩
      · exact .inr ⟨loaded, List.mem_cons_of_mem _ hloaded, heq⟩
  rcases hload routes [] h with hnone | hfound
  · cases hnone
  · exact hfound

/-- So every route in use takes frames of 64 bytes. -/
theorem loaded_maxFrameSize (h : xglConfigValidate threadSafeBuild config = .ok)
    {targetId : UInt16} {route : RouteItem}
    (hlook : xglRouteTableLookup (xglRouteTableLoad config.routes) targetId = some route) :
    64 ≤ route.maxFrameSize.toNat := by
  obtain ⟨loaded, hloaded, rfl⟩ := mem_xglRouteTableLoad (List.mem_of_find?_eq_some hlook)
  have hvalid := xglConfigValidate_routes h loaded hloaded
  simp only [configRouteValid] at hvalid
  split at hvalid
  · cases hvalid
  · simp only [Bool.and_eq_true, Bool.not_eq_true', Bool.or_eq_false_iff,
      decide_eq_false_iff_not] at hvalid
    exact UInt16.le_iff_toNat_le.mp (UInt16.not_lt.mp hvalid.1.2.1)

end Valid

end XgenLink
