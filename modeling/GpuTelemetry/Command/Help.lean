/-!
# Help texts

What the program prints about itself.
-/

namespace GpuTelemetry.Command

def versionText : String := "gpuscope 0.1.0"

def shortHelp : List String :=
  ["Print GPU device and process telemetry as JSON",
    "",
    "Usage: gpuscope [OPTIONS]",
    "",
    "Options:",
    "  -i, --interval <MS>    Milliseconds between two snapshots [default: 1000]",
    "  -n, --count <N>        Stop after N snapshots (0 = run until Ctrl+C) [default: 0]",
    "  -m, --mask <BITS>      Bitmask of the devices to monitor, bit i selecting the i-th GPU found",
    "      --no-processes     Do not collect per-process usage",
    "  -p, --pretty           Pretty-print each snapshot",
    "      --proc-root <DIR>  procfs mount point to scan for GPU clients [default: /proc]",
    "  -h, --help             Print help (see more with '--help')",
    "  -V, --version          Print version"]

def longHelp : List String :=
  ["Print GPU device and process telemetry as JSON",
    "",
    "One snapshot is printed per line on stdout. Logs go to stderr and are",
    "controlled with RUST_LOG (default: warn).",
    "",
    "Usage: gpuscope [OPTIONS]",
    "",
    "Options:",
    "  -i, --interval <MS>",
    "          Milliseconds between two snapshots",
    "          ",
    "          [default: 1000]",
    "",
    "  -n, --count <N>",
    "          Stop after N snapshots (0 = run until Ctrl+C)",
    "          ",
    "          [default: 0]",
    "",
    "  -m, --mask <BITS>",
    "          Bitmask of the devices to monitor, bit i selecting the i-th GPU found",
    "",
    "      --no-processes",
    "          Do not collect per-process usage",
    "",
    "  -p, --pretty",
    "          Pretty-print each snapshot",
    "",
    "      --proc-root <DIR>",
    "          procfs mount point to scan for GPU clients",
    "          ",
    "          [default: /proc]",
    "",
    "  -h, --help",
    "          Print help (see a summary with '-h')",
    "",
    "  -V, --version",
    "          Print version"]

end GpuTelemetry.Command
