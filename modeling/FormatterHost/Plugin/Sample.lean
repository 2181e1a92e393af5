import FormatterHost.Bytes.Utf8

/-!
# A sample plugin

A plugin to try a host with, as the text of a module.  It ends every text with a line break, and
rejects, traps or answers out of turn on texts with certain marks.
-/

namespace FormatterHost.WasmPlugin

/-- The text of the module. -/
def sampleText : String := r##";; Minimal guest speaking the dprint shared-bytes protocol.
;;
;; Formatting rule: append "\n" unless the text already ends with one.
;; - any "!" in the text          -> status 2, "syntax error: unexpected token"
;; - text starting with "?"       -> status 7
;; - text starting with "#"       -> trap (unreachable)
;; - no global or plugin config   -> status 3
;;
;; The staging buffer alternates between offset 1024 (8 bytes) and
;; offset 2048 (5 bytes) on every clear_shared_bytes,
;; add_to_shared_bytes_from_buffer and set_buffer_with_shared_bytes.
;;
;; Layout: 512 error text | 1024/2048 staging | 4096 file path
;;         | 8192 shared bytes | 40960 formatted output
(module
  (memory (export "memory") 2)

  (global $buf_off (mut i32) (i32.const 1024))
  (global $buf_size (mut i32) (i32.const 8))
  (global $shared_len (mut i32) (i32.const 0))
  (global $shared_pos (mut i32) (i32.const 0))
  (global $out_len (mut i32) (i32.const 0))
  (global $path_len (mut i32) (i32.const 0))
  (global $global_cfg (mut i32) (i32.const 0))
  (global $plugin_cfg (mut i32) (i32.const 0))

  (data (i32.const 512) "syntax error: unexpected token")

  (func (export "get_wasm_memory_buffer") (result i32)
    global.get $buf_off)

  (func (export "get_wasm_memory_buffer_size") (result i32)
    global.get $buf_size)

  (func $relocate
    (global.set $buf_off
      (select (i32.const 2048) (i32.const 1024)
        (i32.eq (global.get $buf_off) (i32.const 1024))))
    (global.set $buf_size
      (select (i32.const 5) (i32.const 8)
        (i32.eq (global.get $buf_size) (i32.const 8)))))

  (func (export "clear_shared_bytes") (param $len i32)
    (global.set $shared_len (local.get $len))
    (global.set $shared_pos (i32.const 0))
    (call $relocate))

  (func (export "add_to_shared_bytes_from_buffer") (param $n i32)
    (memory.copy
      (i32.add (i32.const 8192) (global.get $shared_pos))
      (global.get $buf_off)
      (local.get $n))
    (global.set $shared_pos (i32.add (global.get $shared_pos) (local.get $n)))
    (call $relocate))

  (func (export "set_buffer_with_shared_bytes") (param $off i32) (param $n i32)
    (call $relocate)
    (memory.copy
      (global.get $buf_off)
      (i32.add (i32.const 8192) (local.get $off))
      (local.get $n)))

  (func (export "set_file_path")
    (memory.copy (i32.const 4096) (i32.const 8192) (global.get $shared_pos))
    (global.set $path_len (global.get $shared_pos)))

  (func (export "set_global_config")
    (global.set $global_cfg (global.get $shared_pos)))

  (func (export "set_plugin_config")
    (global.set $plugin_cfg (global.get $shared_pos)))

  (func (export "reset_config")
    (global.set $global_cfg (i32.const 0))
    (global.set $plugin_cfg (i32.const 0)))

  (func (export "format") (result i32)
    (local $i i32)
    (local $len i32)
    (local.set $len (global.get $shared_pos))

    (if (i32.or (i32.eqz (global.get $global_cfg)) (i32.eqz (global.get $plugin_cfg)))
      (then (return (i32.const 3))))

    (if (i32.and
          (i32.gt_u (local.get $len) (i32.const 0))
          (i32.eq (i32.load8_u (i32.const 8192)) (i32.const 35)))
      (then (unreachable)))

    (if (i32.and
          (i32.gt_u (local.get $len) (i32.const 0))
          (i32.eq (i32.load8_u (i32.const 8192)) (i32.const 63)))
      (then (return (i32.const 7))))

    (block $done
      (loop $scan
        (br_if $done (i32.ge_u (local.get $i) (local.get $len)))
        (if (i32.eq
              (i32.load8_u (i32.add (i32.const 8192) (local.get $i)))
              (i32.const 33))
          (then (return (i32.const 2))))
        (local.set $i (i32.add (local.get $i) (i32.const 1)))
        (br $scan)))

    (if (i32.and
          (i32.gt_u (local.get $len) (i32.const 0))
          (i32.eq
            (i32.load8_u (i32.add (i32.const 8191) (local.get $len)))
            (i32.const 10)))
      (then (return (i32.const 0))))

    (memory.copy (i32.const 40960) (i32.const 8192) (local.get $len))
    (i32.store8 (i32.add (i32.const 40960) (local.get $len)) (i32.const 10))
    (global.set $out_len (i32.add (local.get $len) (i32.const 1)))
    (i32.const 1))

  (func (export "get_formatted_text") (result i32)
    (memory.copy (i32.const 8192) (i32.const 40960) (global.get $out_len))
    (global.set $shared_len (global.get $out_len))
    (global.get $out_len))

  (func (export "get_error_text") (result i32)
    (memory.copy (i32.const 8192) (i32.const 512) (i32.const 30))
    (global.set $shared_len (i32.const 30))
    (i32.const 30))
)
"##

/-- The bytes of the module. -/
def sampleBytes : Bytes :=
  Utf8.encode sampleText

end FormatterHost.WasmPlugin
