/-!
# Families of AMD devices

The suffix by which a device without a marketing name is told from others that
have the same driver.
-/

namespace GpuTelemetry.Amd

def familySuffix (family : UInt32) : Option String :=
  match family with
  | 110 => some " (Hainan / Oland / Verde / Pitcairn / Tahiti)"
  | 120 => some " (Bonaire / Hawaii)"
  | 125 => some " (Kaveri / Kabini / Mullins)"
  | 130 => some " (Iceland / Tonga)"
  | 135 => some " (Carrizo / Stoney)"
  | 141 => some " (Vega10)"
  | 142 => some " (Raven)"
  | 143 => some " (Navi10)"
  | 144 => some " (Van Gogh)"
  | 146 => some " (Yellow Carp)"
  | _ => none

end GpuTelemetry.Amd
