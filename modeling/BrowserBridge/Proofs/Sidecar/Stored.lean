import BrowserBridge.Proofs.Json.Shape
import BrowserBridge.Sidecar.Config

/-!
Settings that are written as JSON and read again.  Everything comes back as it was except the
two spans of time, which come back in whole milliseconds.
-/

namespace BrowserBridge

namespace Duration

theorem toNat_millis (span : Duration) :
    span.millis.toNat = Min.min (span.nanos / 1000000) 0xFFFFFFFFFFFFFFFF := by
  rw [millis, UInt64.toNat_ofNat_of_lt']
  exact Nat.lt_of_le_of_lt (Nat.min_le_right _ _) (by decide)

/-- What is left of a span that is cut to whole milliseconds. -/
theorem nanos_ofMillis_millis (span : Duration) :
    (ofMillis span.millis).nanos =
      Min.min (span.nanos / 1000000) 0xFFFFFFFFFFFFFFFF * 1000000 := by
  simp only [ofMillis, toNat_millis]

theorem ofMillis_eq_iff {ms : UInt64} {span : Duration} :
    ofMillis ms = span ↔ ms.toNat * 1000000 = span.nanos := by
  rcases span with ⟨nanos, fits⟩
  simp only [ofMillis, Duration.mk.injEq]

/-- Whole milliseconds are kept. -/
theorem millis_ofMillis (ms : UInt64) : (ofMillis ms).millis = ms := by
  have hless := ms.toNat_lt
  apply UInt64.toNat_inj.mp
  rw [toNat_millis, ofMillis, Nat.mul_div_cancel _ (by decide)]
  omega

/-- A span is kept if it is in whole milliseconds that fit 64 bits, and only then. -/
theorem ofMillis_millis_eq_iff (span : Duration) :
    ofMillis span.millis = span ↔ ∃ ms ≤ 0xFFFFFFFFFFFFFFFF, span.nanos = ms * 1000000 := by
  rw [ofMillis_eq_iff, toNat_millis]
  constructor
  · intro hkept
    exact ⟨_, Nat.min_le_right _ _, hkept.symm⟩
  · rintro ⟨ms, hms, hnanos⟩
    rw [hnanos, Nat.mul_div_cancel _ (by decide), Nat.min_eq_left hms]

end Duration

namespace SidecarConfig

/-- Settings with their spans of time cut to whole milliseconds. -/
def inMillis (config : SidecarConfig) : SidecarConfig :=
  { config with
    slowStart := .ofMillis config.slowStart.millis
    startupTimeout := .ofMillis config.startupTimeout.millis }

/-- The members of settings by their keys. -/
theorem toJson_eq (config : SidecarConfig) :
    config.toJson = .object
      [("extra_args", .array (config.extraArgs.map .string)),
       ("jar_name", .string config.jarName),
       ("lock_dir", config.lockDir.elim .null .string),
       ("max_slow_start_delay_ms", .integer config.slowStart.millis.toNat),
       ("port", .integer config.port.toNat),
       ("process_marker", .string config.marker),
       ("runtime", .string config.runtime),
       ("server_path", .string config.serverPath),
       ("startup_timeout_ms", .integer config.startupTimeout.millis.toNat)] := by
  simp only [toJson, members, Json.ofMembers, Json.insertMember, List.foldl_cons, List.foldl_nil,
    String.reduceEq, String.reduceLT, if_true, if_false]

theorem ofJson_toJson (config : SidecarConfig) : ofJson config.toJson = .ok config.inMillis := by
  have hdir := Json.asOption_elim Json.asPath (fun _ => rfl) config.lockDir
  simp [toJson_eq, ofJson, Json.asRecord, put, Json.asString, Json.asPath, Json.asUInt16_toNat,
    Json.asUInt64_toNat, Json.asStrings_map, hdir, inMillis, bind, Except.bind, pure,
    Except.pure]

/-- The members say nothing that the settings in whole milliseconds do not say. -/
theorem members_inMillis (config : SidecarConfig) : config.inMillis.members = config.members := by
  simp only [members, inMillis, Duration.millis_ofMillis]

theorem inMillis_eq_iff (config : SidecarConfig) :
    config.inMillis = config ↔
      Duration.ofMillis config.slowStart.millis = config.slowStart ∧
        Duration.ofMillis config.startupTimeout.millis = config.startupTimeout := by
  rcases config with ⟨runtime, serverPath, jarName, port, marker, slowStart, lockDir, timeout, args⟩
  simp [inMillis]

theorem whole_members (config : SidecarConfig) : Json.Whole (.object config.members) := by
  have hport := config.port.toNat_lt
  have hslow := config.slowStart.millis.toNat_lt
  have htimeout := config.startupTimeout.millis.toNat_lt
  simp only [members, Json.Whole, Json.WholeMembers, Json.whole_elim, Json.wholeElements_map,
    true_and, and_true]
  omega

/-- The values of the members have nothing to put in order. -/
theorem settled_members (config : SidecarConfig) :
    Json.settledMembers config.members = config.members := by
  simp [members, Json.settledMembers, Json.settled, Json.settled_elim, Json.settledElements_map]

/-- The text of settings is read as their JSON. -/
theorem parse?_toText (config : SidecarConfig) :
    Json.parse? config.toText = some config.toJson := by
  rw [toText, Json.parse?_render config.whole_members, Json.settled, settled_members, toJson]

/-- Settings that are written and read again are the same precisely when both spans of time are
in whole milliseconds that fit 64 bits.  In every case all else comes back, the spans are cut to
whole milliseconds and to the greatest number of them, and what came back is written alike. -/
theorem read_back_iff (config : SidecarConfig) :
    ∃ back, Json.parse? config.toText = some config.toJson ∧ ofJson config.toJson = .ok back ∧
      (back = config ↔
        (∃ ms ≤ 0xFFFFFFFFFFFFFFFF, config.slowStart.nanos = ms * 1000000) ∧
          ∃ ms ≤ 0xFFFFFFFFFFFFFFFF, config.startupTimeout.nanos = ms * 1000000) ∧
      back = { config with slowStart := back.slowStart, startupTimeout := back.startupTimeout } ∧
      back.slowStart.nanos =
        min (config.slowStart.nanos / 1000000) 0xFFFFFFFFFFFFFFFF * 1000000 ∧
      back.startupTimeout.nanos =
        min (config.startupTimeout.nanos / 1000000) 0xFFFFFFFFFFFFFFFF * 1000000 ∧
      back.toText = config.toText := by
  refine ⟨config.inMillis, config.parse?_toText, config.ofJson_toJson, ?_, rfl,
    config.slowStart.nanos_ofMillis_millis, config.startupTimeout.nanos_ofMillis_millis, ?_⟩
  · rw [inMillis_eq_iff, Duration.ofMillis_millis_eq_iff, Duration.ofMillis_millis_eq_iff]
  · rw [toText, members_inMillis, toText]

end SidecarConfig

end BrowserBridge
