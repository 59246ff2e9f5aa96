import EdgeRender.Config.Route
import EdgeRender.Fetch.Plan
import EdgeRender.Proofs.Codec

/-! # What is written is read back

Plans, configurations and keys are read back from their JSON text as they were. A plan without
seconds or tags writes neither, and has neither when it is read.
-/
namespace EdgeRender

open EdgeRender.Text Codec

/-! ## Modes -/

theorem RuntimeMode.codec_restores (m : RuntimeMode) : RuntimeMode.codec.Restores m :=
  choice_restores (by cases m <;> decide) (by cases m <;> decide)

theorem HostModel.codec_restores (m : HostModel) : HostModel.codec.Restores m :=
  choice_restores (by cases m <;> decide) (by cases m <;> decide)

theorem LogFormat.codec_restores (f : LogFormat) : LogFormat.codec.Restores f :=
  choice_restores (by cases f <;> decide) (by cases f <;> decide)

theorem RenderMode.codec_restores (m : RenderMode) : RenderMode.codec.Restores m :=
  choice_restores (by cases m <;> decide) (by cases m <;> decide)

/-! ## Records -/

theorem strings_restores (ss : List String) : (Codec.list .string).Restores ss :=
  list_restores fun s _ => string_restores s

theorem RouteConfig.codec_restores (r : RouteConfig) : RouteConfig.codec.Restores r :=
  Restoring.restores
    (.of (.of (.of (.of .nil (RenderMode.codec_restores _)) (strings_restores _))
      (string_restores _)) (string_restores _))
    (by decide) rfl

theorem RuntimeConfig.codec_restores (c : RuntimeConfig) : RuntimeConfig.codec.Restores c :=
  Restoring.restores
    (.of (.of (.of (.of .nil (LogFormat.codec_restores _)) (word64_restores _))
      (HostModel.codec_restores _)) (RuntimeMode.codec_restores _))
    (by decide) rfl

namespace Fetch

theorem Key.codec_restores (k : Key) : Key.codec.Restores k :=
  (string_restores k.text).map Key.mk

/-- Seconds that are written do not look like null. -/
theorem seconds_restores (ttl : UInt32) : (Codec.nullable .word32).Restores (some ttl) := by
  refine (word32_restores ttl).nullable ?_
  obtain ⟨b, bytes, hbytes, hdigit⟩ := Json.digitBytes_cons ttl.toNat
  rw [show (Codec.word32.encode ttl).bytes = _ from Json.bytes_natural ttl.toNat, hbytes]
  intro hhead
  exact Json.ne_of_isDigitByte hdigit (by decide) (Option.some.inj hhead)

theorem Plan.codec_restores (p : Plan) : Plan.codec.Restores p := by
  have hseconds : p.ttl.isNone = false → (Codec.nullable .word32).Restores p.ttl := by
    intro hsome
    obtain ⟨ttl, httl⟩ := Option.isSome_iff_exists.mp (by simpa using hsome)
    rw [httl]
    exact seconds_restores ttl
  refine Restoring.restores
    (.of (.ofSkipped (.ofSkipped .nil fun _ => strings_restores p.tags) hseconds)
      (boolean_restores p.cached)) (by decide) ?_
  obtain ⟨cached, ttl, tags⟩ := p
  cases ttl <;> cases tags <;> rfl

/-- The members of a written plan: seconds and tags only where there are some. -/
def Plan.writtenMembers (p : Plan) : List (String × Json.Value) :=
  ("cached", .boolean p.cached) ::
    (p.ttl.toList.map fun ttl => ("ttl_seconds", .natural ttl.toNat)) ++
    if p.tags.isEmpty then [] else [("tags", .array (p.tags.map .string))]

theorem Plan.encode_eq (p : Plan) : Plan.codec.encode p = .object p.writtenMembers := by
  obtain ⟨cached, ttl, tags⟩ := p
  cases ttl <;> cases tags <;> rfl

end Fetch

/-! ## Round trips -/

/-- What is written of plans, configurations and keys is read back as it was. -/
structure ReadBack : Prop where
  plan : ∀ p : Fetch.Plan,
    Fetch.Plan.codec.parseJson (Utf8.encode (Fetch.Plan.codec.jsonText p).toList) = .ok p
  /-- Seconds and tags that are read back as nothing have not been written. -/
  planMembers : ∀ p : Fetch.Plan, Fetch.Plan.codec.encode p = .object p.writtenMembers
  runtime : ∀ c : RuntimeConfig,
    RuntimeConfig.codec.parseJson (Utf8.encode (RuntimeConfig.codec.jsonText c).toList) = .ok c
  route : ∀ r : RouteConfig,
    RouteConfig.codec.parseJson (Utf8.encode (RouteConfig.codec.jsonText r).toList) = .ok r
  key : ∀ k : Fetch.Key,
    Fetch.Key.codec.parseJson (Utf8.encode (Fetch.Key.codec.jsonText k).toList) = .ok k

/-- Plans, configurations and keys of any contents are read back from their JSON text. -/
theorem readBack_jsonText : ReadBack where
  plan p := p.codec_restores.parseJson
  planMembers p := p.encode_eq
  runtime c := c.codec_restores.parseJson
  route r := r.codec_restores.parseJson
  key k := k.codec_restores.parseJson

end EdgeRender
