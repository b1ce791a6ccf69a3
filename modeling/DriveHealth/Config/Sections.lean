import DriveHealth.Config.Codec
import DriveHealth.Plan
import DriveHealth.Recorder
set_option autoImplicit false

namespace DriveHealth

open Config (Codec RecordField)

def Ata.TableFormat.fields : List (RecordField Ata.TableFormat) := [
  .of "brief" .bool (·.brief) fun s b => { s with brief := b },
  .of "hex_id" .bool (·.hexId) fun s b => { s with hexId := b },
  .of "hex_val" .bool (·.hexRaw) fun s b => { s with hexRaw := b }]

def Config.level : Codec Int := .int (-0x80000000) 0x7fffffff

def Ata.Sections.fields : List (RecordField Ata.Sections) := [
  .of "drive_info" .bool (·.driveInfo) fun s b => { s with driveInfo := b },
  .of "ignore_presets" .bool (·.ignorePresets) fun s b => { s with ignorePresets := b },
  .of "identify_word_level" Config.level (·.wordLevel) fun s n => { s with wordLevel := n },
  .of "identify_bit_level" Config.level (·.bitLevel) fun s n => { s with bitLevel := n },
  .of "smart_check_status" .bool (·.status) fun s b => { s with status := b },
  .of "smart_general_values" .bool (·.generalValues) fun s b => { s with generalValues := b },
  .of "smart_vendor_attrib" .bool (·.attributes) fun s b => { s with attributes := b },
  .of "smart_error_log" .bool (·.errorLog) fun s b => { s with errorLog := b },
  .of "smart_selftest_log" .bool (·.selfTestLog) fun s b => { s with selfTestLog := b },
  .of "smart_selective_selftest_log" .bool (·.selectiveLog) fun s b => { s with selectiveLog := b },
  .of "smart_ext_error_log" (.nat 32) (·.extErrorLog) fun s n => { s with extErrorLog := n },
  .of "retry_error_log" .bool (·.retryErrorLog) fun s b => { s with retryErrorLog := b },
  .of "smart_ext_selftest_log" (.nat 32) (·.extSelfTestLog) fun s n => { s with extSelfTestLog := n },
  .of "retry_selftest_log" .bool (·.retrySelfTestLog) fun s b => { s with retrySelfTestLog := b },
  .of "smart_logdir" .bool (·.smartDirectory) fun s b => { s with smartDirectory := b },
  .of "gp_logdir" .bool (·.gpDirectory) fun s b => { s with gpDirectory := b },
  .of "sct_temp_sts" .bool (·.sctTemperatures) fun s b => { s with sctTemperatures := b },
  .of "sct_temp_hist" .bool (·.sctHistory) fun s b => { s with sctHistory := b },
  .of "sct_erc_get" (.nat 8) (·.sctErrorRecovery) fun s n => { s with sctErrorRecovery := n },
  .of "sct_wcache_reorder_get" .bool (·.sctReorder) fun s b => { s with sctReorder := b },
  .of "sct_wcache_sct_get" .bool (·.sctWriteCache) fun s b => { s with sctWriteCache := b },
  .of "devstat_all_pages" .bool (·.statistics) fun s b => { s with statistics := b },
  .of "pending_defects_log" (.nat 32) (·.pendingDefects) fun s n => { s with pendingDefects := n },
  .of "sataphy" .bool (·.phyCounters) fun s b => { s with phyCounters := b },
  .of "get_set_used" .bool (·.askedOnly) fun s b => { s with askedOnly := b },
  .of "get_aam" .bool (·.aam) fun s b => { s with aam := b },
  .of "get_apm" .bool (·.apm) fun s b => { s with apm := b },
  .of "get_security" .bool (·.security) fun s b => { s with security := b },
  .of "get_lookahead" .bool (·.lookahead) fun s b => { s with lookahead := b },
  .of "get_wcache" .bool (·.writeCache) fun s b => { s with writeCache := b },
  .of "get_dsn" .bool (·.dsn) fun s b => { s with dsn := b },
  .of "output_format" (.record Ata.TableFormat.fields {}) (·.format) fun s f => { s with format := f }]

def Ata.Sections.codec : Codec Ata.Sections := .record Ata.Sections.fields {}

def Scsi.Sections.fields : List (RecordField Scsi.Sections) := [
  .of "drive_info" .bool (·.driveInfo) fun s b => { s with driveInfo := b },
  .of "smart_check_status" .bool (·.status) fun s b => { s with status := b },
  .of "smart_vendor_attrib" .bool (·.vendorAttributes) fun s b => { s with vendorAttributes := b },
  .of "smart_error_log" .bool (·.errorLog) fun s b => { s with errorLog := b },
  .of "smart_selftest_log" .bool (·.selfTestLog) fun s b => { s with selfTestLog := b },
  .of "smart_ss_media_log" .bool (·.mediaLog) fun s b => { s with mediaLog := b },
  .of "smart_background_log" .bool (·.backgroundLog) fun s b => { s with backgroundLog := b },
  .of "get_rcd" .bool (·.readCache) fun s b => { s with readCache := b },
  .of "get_wce" .bool (·.writeCache) fun s b => { s with writeCache := b },
  .of "sasphy" .bool (·.sasPhy) fun s b => { s with sasPhy := b },
  .of "smart_env_rep" .bool (·.environment) fun s b => { s with environment := b },
  .of "scsi_pending_defects" .bool (·.pendingDefects) fun s b => { s with pendingDefects := b },
  .of "tape_device_stats" .bool (·.tapeStatistics) fun s b => { s with tapeStatistics := b },
  .of "zoned_device_stats" .bool (·.zonedStatistics) fun s b => { s with zonedStatistics := b },
  .of "general_stats_and_perf" .bool (·.generalStatistics) fun s b => { s with generalStatistics := b },
  .of "health_opt_count" (.nat 32) (·.healthRequests) fun s n => { s with healthRequests := n }]

def Scsi.Sections.codec : Codec Scsi.Sections := .record Scsi.Sections.fields {}

def Nvme.Sections.fields : List (RecordField Nvme.Sections) := [
  .of "drive_info" .bool (·.driveInfo) fun s b => { s with driveInfo := b },
  .of "smart_check_status" .bool (·.status) fun s b => { s with status := b },
  .of "drive_capabilities" .bool (·.capabilities) fun s b => { s with capabilities := b },
  .of "smart_vendor_attrib" .bool (·.health) fun s b => { s with health := b },
  .of "error_log_entries" (.nat 32) (·.errorEntries) fun s n => { s with errorEntries := n },
  .of "smart_selftest_log" .bool (·.selfTestLog) fun s b => { s with selfTestLog := b }]

def Nvme.Sections.codec : Codec Nvme.Sections := .record Nvme.Sections.fields {}

def Baseline.fields : List (RecordField Baseline) := [
  .of "ata" Ata.Sections.codec (·.ata) fun s x => { s with ata := x },
  .of "scsi" Scsi.Sections.codec (·.scsi) fun s x => { s with scsi := x },
  .of "nvme" Nvme.Sections.codec (·.nvme) fun s x => { s with nvme := x },
  .of "output_format_set" .bool (·.formatChosen) fun s b => { s with formatChosen := b }]

def Baseline.codec : Codec Baseline := .record Baseline.fields {}

def DebugLevels.fields : List (RecordField DebugLevels) := [
  .of "ata" (.nat 8) (·.ata) fun s n => { s with ata := n },
  .of "scsi" (.nat 8) (·.scsi) fun s n => { s with scsi := n },
  .of "nvme" (.nat 8) (·.nvme) fun s n => { s with nvme := n }]

def DebugLevels.codec : Codec DebugLevels := .record DebugLevels.fields {}

end DriveHealth
