import EdgeRender.Config.Mode

/-! # Routes

What is configured for one route: its pattern, its handler, the methods it accepts
and how it is rendered.
-/
namespace EdgeRender

structure RouteConfig where
  pattern : String
  handler : String
  methods : List String := ["GET"]
  renderMode : RenderMode := .static
  deriving DecidableEq, Repr

namespace RouteConfig

/-- The fields in their order. Pattern and handler have to be given. -/
def fields : List (Codec.Field RouteConfig) :=
  [.of "pattern" .string (·.pattern) (fun x r => { r with pattern := x }) true,
   .of "handler" .string (·.handler) (fun x r => { r with handler := x }) true,
   .of "methods" (.list .string) (·.methods) (fun x r => { r with methods := x }) false,
   .of "render_mode" RenderMode.codec (·.renderMode)
     (fun x r => { r with renderMode := x }) false]

def codec : Codec RouteConfig :=
  .record "RouteConfig" fields { pattern := "", handler := "" }

end RouteConfig
end EdgeRender
